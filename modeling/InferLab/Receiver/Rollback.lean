import InferLab.Receiver.System
import InferLab.ServiceAuth.Codecs

/-!
# Control plane: no policy is replaced by an older one

Every poll and every start keeps what `Session.Sound` says. So at every moment the floor is at
least as new as the active policy, and the policies that become active only get newer.
-/

namespace InferLab.Receiver

open ServiceAuth Attempt List Option

/-! ## The active policy -/

/-- Requests are judged by this policy. -/
def Installed (authorizer : ServiceAuthorizer) (snapshot : VerifiedServiceTrustSnapshot) : Prop :=
  ∃ mode, authorizer.mode = .required mode ∧ mode.keys = snapshot.compiled.keys ∧
    mode.gatewayServiceIds = snapshot.compiled.gatewayServiceIds ∧
    mode.trustPolicy.generation = some snapshot.policy.generation ∧
    mode.trustPolicy.issuedAtMs = some snapshot.policy.issuedAtMs ∧
    mode.trustPolicy.signingKeyId = some snapshot.signingKeyId

section Installed

variable {authorizer : ServiceAuthorizer} {snapshot : VerifiedServiceTrustSnapshot}

lemma installed_of_requiredFromSignedSnapshot {trusted revoked : List String}
    {config : ServiceTrustReceiverValidityConfig} {maxAgeMs maxFutureSkewMs loadedAtMs : UInt64}
    (h : ServiceAuthorizer.requiredFromSignedSnapshot snapshot trusted revoked config maxAgeMs
      maxFutureSkewMs loadedAtMs = .ok authorizer) : Installed authorizer snapshot := by
  obtain ⟨_, _, h⟩ := of_bind h
  obtain ⟨_, _, h⟩ := of_bind h
  cases h
  exact ⟨_, rfl, rfl, rfl, rfl, rfl, rfl⟩

lemma Installed.observeWallClock (h : Installed authorizer snapshot) (observedNowMs : UInt64) :
    Installed (authorizer.observeWallClock observedNowMs) snapshot := h

/-- An update installs the new policy, or leaves the old one. -/
theorem applySignedSnapshot_cases (authorizer : ServiceAuthorizer)
    (next : VerifiedServiceTrustSnapshot) (observedNowMs : UInt64) :
    (∃ activatedAtMs, (authorizer.applySignedSnapshot next observedNowMs).1 =
        .ok (some activatedAtMs) ∧
      Installed (authorizer.applySignedSnapshot next observedNowMs).2 next) ∨
    ((∀ activatedAtMs, (authorizer.applySignedSnapshot next observedNowMs).1 ≠
        .ok (some activatedAtMs)) ∧
      (authorizer.applySignedSnapshot next observedNowMs).2.mode = authorizer.mode) := by
  unfold ServiceAuthorizer.applySignedSnapshot
  dsimp only
  cases hnext : ServiceAuthorizer.nextMode (authorizer.observeWallClock observedNowMs).mode next
      (authorizer.observeWallClock observedNowMs).maxObservedWallClockMs with
  | error message => exact .inr ⟨fun _ h => (by cases h), rfl⟩
  | ok mode =>
    cases mode with
    | none => exact .inr ⟨fun _ h => (by cases h), rfl⟩
    | some mode =>
      obtain ⟨current, config, validity, -, -, -, -, -, -, rfl⟩ :=
        ServiceAuthorizer.nextMode_eq_some hnext
      exact .inl ⟨_, rfl, _, rfl, rfl, rfl, rfl, rfl, rfl⟩

end Installed

/-! ## Polls -/

section Polls

variable [Ed25519] [Base64] [PrettyJson PersistedServiceTrustFloor] {W : Type}
  {accepted : W → PersistedServiceTrustFloor} {s s' : Session (Running W)}

/-- Between two polls: the policy is installed, and the floor in memory is new enough. -/
structure Ready (accepted : W → PersistedServiceTrustFloor) (s : Session (Running W)) : Prop where
  sound : s.Sound
  installed : ∃ snapshot, s.active = some snapshot ∧ Installed s.process.authorizer snapshot
  accepted : CoversAll (accepted s.process.watcher) s.moments

lemma Ready.filesOnly (h : Ready accepted s) (hfiles : FilesOnly s s') : Ready accepted s' := by
  refine ⟨hfiles.sound, ?_, ?_⟩
  · rw [hfiles.active, hfiles.process]
    exact h.installed
  · rw [hfiles.process]
    exact hfiles.covers _ h.accepted

/-- An update that leaves the floor in memory. -/
theorem updateWatcher_ensures {E : Stop → Session (Running W) → Prop} {f : W → W}
    (hf : ∀ w, accepted (f w) = accepted w) :
    Ensures (Ready accepted) (updateWatcher f) (fun _ => Ready accepted) E := by
  intro s hs
  refine ⟨hs.sound.frame rfl rfl rfl rfl, hs.installed, ?_⟩
  show CoversAll (accepted (f s.process.watcher)) s.moments
  rw [hf]
  exact hs.accepted

/-- An update to the floor that has just been saved. -/
theorem acceptFloor_ensures {E : Stop → Session (Running W) → Prop} {f : W → W}
    {snapshot : VerifiedServiceTrustSnapshot}
    (hf : ∀ w, accepted (f w) = .fromVerified snapshot) :
    Ensures (fun s => Ready accepted s ∧ s.disk.floorRecord = some (.fromVerified snapshot))
      (updateWatcher f)
      (fun _ s => (Ready accepted s ∧ s.disk.floorRecord = some (.fromVerified snapshot)) ∧
        accepted s.process.watcher = .fromVerified snapshot) E := by
  rintro s ⟨hs, hfloor⟩
  refine ⟨⟨⟨hs.sound.frame rfl rfl rfl rfl, hs.installed, ?_⟩, hfloor⟩, hf _⟩
  show CoversAll (accepted (f s.process.watcher)) s.moments
  rw [hf]
  exact hs.sound.floor _ hfloor

lemma observeWallClock_ensures {w : W} (observedNowMs : UInt64) :
    Ensures (fun s => Ready accepted s ∧ s.process.watcher = w) (observeWallClock observedNowMs)
      (fun _ s => Ready accepted s ∧ s.process.watcher = w) (fun _ => Ready accepted) := by
  rintro s ⟨hready, hw⟩
  obtain ⟨snapshot, hactive, hinstalled⟩ := hready.installed
  exact ⟨⟨hready.sound.frame rfl rfl rfl rfl,
    ⟨snapshot, hactive, hinstalled.observeWallClock observedNowMs⟩, hready.accepted⟩, hw⟩

/-- A policy whose floor is saved may be activated. -/
theorem applySignedSnapshot_ensures (snapshot : VerifiedServiceTrustSnapshot)
    (observedNowMs : UInt64) :
    Ensures (fun s => (Ready accepted s ∧ s.disk.floorRecord = some (.fromVerified snapshot)) ∧
        accepted s.process.watcher = .fromVerified snapshot)
      (applySignedSnapshot snapshot observedNowMs)
      (fun activation s => Ready accepted s ∧
        (activation.isSome = true → s.active = some snapshot ∧
          s.disk.floorRecord = some (.fromVerified snapshot)))
      (fun _ => Ready accepted) := by
  rintro s ⟨⟨hready, hfloor⟩, haccepted⟩
  obtain ⟨old, hold, hinstalled⟩ := hready.installed
  rcases applySignedSnapshot_cases s.process.authorizer snapshot observedNowMs with
    ⟨activatedAtMs, hresult, hnew⟩ | ⟨hnever, hmode⟩
  · have hsound : ({ s with process := { s.process with
        authorizer := (s.process.authorizer.applySignedSnapshot snapshot observedNowMs).2 } } :
        Session (Running W)).Sound := hready.sound.frame rfl rfl rfl rfl
    have hall := hsound.floor _ hfloor
    unfold applySignedSnapshot
    simp only [hresult]
    refine ⟨⟨hsound.activated hfloor, ⟨snapshot, rfl, hnew⟩, ?_⟩, fun _ => ⟨rfl, hfloor⟩⟩
    refine hready.accepted.append fun active hactive => ?_
    obtain rfl : snapshot = active := some.inj hactive
    exact haccepted ▸ covers_fromVerified
  · have hkept : Ready accepted { s with process := { s.process with
        authorizer := (s.process.authorizer.applySignedSnapshot snapshot observedNowMs).2 } } := by
      obtain ⟨mode, hrequired, hrest⟩ := hinstalled
      exact ⟨hready.sound.frame rfl rfl rfl rfl,
        ⟨old, hold, mode, hmode.trans hrequired, hrest⟩, hready.accepted⟩
    unfold applySignedSnapshot
    cases hresult : (s.process.authorizer.applySignedSnapshot snapshot observedNowMs).1 with
    | error message =>
      simp only [hresult]
      exact hkept
    | ok activation =>
      cases activation with
      | none =>
        simp only [hresult]
        exact ⟨hkept, fun h => by cases h⟩
      | some activatedAtMs => exact absurd hresult (hnever activatedAtMs)

lemma signReceipt_ensures {P : Type} {A : Session P → Prop} {E : Stop → Session P → Prop}
    (identity : SigningIdentity) (snapshot : VerifiedServiceTrustSnapshot)
    (activatedAtMs : UInt64) (hE : ∀ e s, A s → E e s) :
    Ensures A (signReceipt identity snapshot activatedAtMs)
      (fun receipt s => ∃ s₀, A s₀ ∧ s = s₀.attested identity receipt ∧
        signTrustReceiptWithKey identity.serviceId identity.credentialId identity.seed snapshot
          activatedAtMs = .ok receipt) E := by
  unfold signReceipt
  refine (check_ensures hE _).bind fun receipt => ?_
  rintro s ⟨hs, hsigned⟩
  exact ⟨s, hs, rfl, of_mapError hsigned⟩

end Polls

section LocalPolls

variable [Ed25519] [Base64] [PrettyJson PersistedServiceTrustFloor]
  [LawfulPrettyJson PersistedServiceTrustFloor]

/-- Between two polls of the file. -/
abbrev ReadyLocal : Session (Running ServiceTrustWatcher) → Prop :=
  Ready ServiceTrustWatcher.acceptedFloor

lemma acceptSnapshot_ensures (input : LocalPoll) (observedAtMs : UInt64) (bytes : Wire.Bytes)
    (verified : VerifiedServiceTrustSnapshot) :
    Ensures ReadyLocal (ServiceTrustWatcher.acceptSnapshot input observedAtMs bytes verified)
      (fun _ => ReadyLocal) (fun _ => ReadyLocal) := by
  unfold ServiceTrustWatcher.acceptSnapshot
  refine .read fun s hs => ?_
  dsimp only
  refine (check_ensures (A := (· = s)) (E := fun _ => ReadyLocal) (fun _ _ h => h ▸ hs) _).bind
    (fun _ => ?_) s rfl
  refine (check_ensures (fun _ _ h => h.1 ▸ hs) _).bind fun _ => ?_
  refine (check_ensures (fun _ _ h => h.1.1 ▸ hs) _).bind fun _ => ?_
  refine .ite (fun _ => ?_) fun _ => ?_
  · rintro s ⟨⟨⟨rfl, -⟩, -⟩, -⟩
    refine Ensures.read (P := ReadyLocal) (fun s hs => ?_) s hs
    refine Ensures.ite (fun _ => ?_) (fun _ => Ensures.pure fun s hs => hs) s hs
    exact .bind (updateWatcher_ensures fun _ => by rfl) fun _ => .pure fun s hs => hs
  · rintro s ⟨⟨⟨rfl, -⟩, -⟩, hvalid⟩
    have hall := coversAll_of_validateCandidateFloor hvalid hs.accepted
    -- the save starts from `s`, so what it leaves is ready again
    refine ((saveFloor_ensures _ input.floorOutcome).imp (fun _ h => h)
      (fun _ _ h => And.intro (hs.filesOnly h.1) h.2) fun _ _ h => hs.filesOnly h).bind
      (fun _ => ?_) s ⟨FilesOnly.refl hs.sound, hall⟩
    refine .bind (acceptFloor_ensures fun _ => by rfl) fun _ => ?_
    refine (check_ensures (fun _ _ h => h.1.1) _).bind fun _ => ?_
    refine ((applySignedSnapshot_ensures verified input.activationAtMs).imp (fun _ h => h.1)
      (fun _ _ h => h.1) fun _ _ h => h).bind fun activation => ?_
    refine .ite (fun _ => .throw fun s hs => hs) fun _ => ?_
    exact .bind (updateWatcher_ensures fun _ => by rfl) fun _ => .pure fun s hs => hs

variable [Json ServiceTrustSnapshot]

lemma reloadOnce_local_ensures (input : LocalPoll) :
    Ensures ReadyLocal (ServiceTrustWatcher.reloadOnce input) (fun _ => ReadyLocal)
      (fun _ => ReadyLocal) := by
  unfold ServiceTrustWatcher.reloadOnce
  intro s hs
  refine (observeWallClock_ensures input.observedAtMs).bind (fun observedAtMs => ?_) s ⟨hs, rfl⟩
  refine .read fun s hs => ?_
  cases readBounded s.process.watcher.snapshotPath maxSnapshotBytes input.file with
  | error message =>
    refine Ensures.ite (fun _ => Ensures.pure fun s hs => hs) (fun _ => ?_) s hs.1
    exact Ensures.bind (updateWatcher_ensures fun _ => by rfl) fun _ => Ensures.throw fun s hs => hs
  | ok bytes =>
    refine Ensures.bind (updateWatcher_ensures fun _ => by rfl) (fun _ => ?_) s hs.1
    refine Ensures.ite (fun _ => Ensures.pure fun s hs => hs) fun _ => ?_
    refine (check_ensures (fun _ _ h => h) _).bind fun verified => ?_
    exact (acceptSnapshot_ensures input observedAtMs bytes verified).imp (fun _ h => h.1)
      (fun _ _ h => h) fun _ _ h => h

end LocalPolls

section RemotePolls

variable [Ed25519] [Base64] [UrlParser] [PrettyJson PersistedServiceTrustFloor]
  [LawfulPrettyJson PersistedServiceTrustFloor] [PrettyJson PersistedServiceTrustCache]
  [Json ServiceTrustSnapshot]

/-- Between two polls of the distributor. -/
abbrev ReadyRemote : Session (Running RemoteServiceTrustWatcher) → Prop :=
  Ready RemoteServiceTrustWatcher.acceptedFloor

omit [LawfulPrettyJson PersistedServiceTrustFloor] in
lemma acceptNotModified_ensures (input : RemotePoll) (etag : Option String) :
    Ensures ReadyRemote (RemoteServiceTrustWatcher.acceptNotModified input etag)
      (fun _ => ReadyRemote) (fun _ => ReadyRemote) := by
  unfold RemoteServiceTrustWatcher.acceptNotModified
  intro s hs
  refine (observeWallClock_ensures input.observedAtMs).bind (fun observedAtMs => ?_) s ⟨hs, rfl⟩
  cases etag with
  | none => exact .pure fun s hs => hs.1
  | some etag =>
    refine .read fun s hs => ?_
    refine Ensures.ite (fun _ => Ensures.pure fun s hs => hs) (fun _ => ?_) s hs.1
    refine Ensures.read fun s hs => ?_
    cases loadVerifiedCache _ s.disk input.cacheReadError _ observedAtMs with
    | error message => exact hs
    | ok cached =>
      cases cached with
      | none => exact hs
      | some cached =>
        refine (check_ensures (A := (· = s)) (fun _ _ h => h ▸ hs) _).bind (fun _ => ?_) s rfl
        rintro s ⟨rfl, -⟩
        refine ((attempt_ensures (saveCache_ensures _ input.cacheOutcome)).imp (fun _ h => h)
          (fun _ _ h => h) fun _ _ h => hs.filesOnly h).bind (fun result => ?_) s
          ⟨FilesOnly.refl hs.sound, hs.accepted⟩
        cases result with
        | error message => exact .throw fun s' h => hs.filesOnly (h.2 message rfl)
        | ok _ =>
          exact (updateWatcher_ensures fun _ => by rfl).imp
            (fun s' h => hs.filesOnly (h.1 _ rfl).1) (fun _ _ h => h) fun _ _ h => h

omit [Json ServiceTrustSnapshot] in
lemma acceptSnapshot_remote_ensures (input : RemotePoll) (etag : Option String)
    {verified : VerifiedServiceTrustSnapshot} (hgenuine : Genuine verified) :
    Ensures ReadyRemote (RemoteServiceTrustWatcher.acceptSnapshot input etag verified)
      (fun _ => ReadyRemote) (fun _ => ReadyRemote) := by
  unfold RemoteServiceTrustWatcher.acceptSnapshot
  refine .read fun s hs => ?_
  refine (check_ensures (A := fun s' => ReadyRemote s' ∧ s'.process.watcher = s.process.watcher)
    (fun _ _ h => h.1) _).bind (fun _ => ?_) s ⟨hs, rfl⟩
  refine ((observeWallClock_ensures input.observedAtMs).imp (fun _ h => h.1) (fun _ _ h => h)
    fun _ _ h => h).bind fun observedAtMs => ?_
  refine (check_ensures (fun _ _ h => h.1) _).bind fun _ => ?_
  refine (check_ensures (fun _ _ h => h.1.1) _).bind fun _ => ?_
  rintro s' ⟨⟨⟨hready, hwatcher⟩, -⟩, hvalid⟩
  rw [← hwatcher] at hvalid
  have hall := coversAll_of_validateCandidateFloor hvalid hready.accepted
  refine ((attempt_ensures (persistRemoteAcceptance_ensures _ etag verified input.cacheOutcome
    input.floorOutcome)).imp (fun _ h => h) (fun _ _ h => h) fun _ _ h =>
      hready.filesOnly h).bind (fun result => ?_) s' ⟨FilesOnly.refl hready.sound, hall⟩
  cases result with
  | error message =>
    refine ((updateWatcher_ensures fun _ => by rfl).imp
      (fun s' h => hready.filesOnly (h.2 message rfl)) (fun _ _ h => h) fun _ _ h => h).bind
      fun _ => .throw fun s h => h
  | ok _ =>
    refine ((acceptFloor_ensures fun _ => by rfl).imp
      (fun s' h => And.intro (hready.filesOnly (h.1 _ rfl).1) (h.1 _ rfl).2) (fun _ _ h => h)
      fun _ _ h => h).bind fun _ => ?_
    refine (check_ensures (fun _ _ h => h.1.1) _).bind fun _ => ?_
    refine .read fun s hs => ?_
    split
    · exact hs.1.1.1
    · refine (applySignedSnapshot_ensures verified input.activationAtMs).bind
        (fun activation => ?_) s hs.1
      cases activation with
      | none => exact .throw fun s hs => hs.1
      | some activatedAtMs =>
        refine (signReceipt_ensures _ verified activatedAtMs fun _ _ h => h.1).bind
          fun receipt => ?_
        refine ((updateWatcher_ensures fun _ => by rfl).imp ?_ (fun _ _ h => h)
          fun _ _ h => h).bind fun _ => .pure fun s h => h
        rintro _ ⟨s, ⟨hs, hactivated⟩, rfl, hsigned⟩
        obtain ⟨hactive, hfloor⟩ := hactivated rfl
        exact ⟨hs.sound.signed hgenuine hfloor hactive hsigned, hs.installed, hs.accepted⟩

lemma reloadOnce_remote_ensures (input : RemotePoll) :
    Ensures ReadyRemote (RemoteServiceTrustWatcher.reloadOnce input) (fun _ => ReadyRemote)
      (fun _ => ReadyRemote) := by
  unfold RemoteServiceTrustWatcher.reloadOnce
  refine .read fun s hs => ?_
  refine (check_ensures (fun _ _ h => h) _).bind (fun _ => ?_) s hs
  refine (check_ensures (fun _ _ h => h.1) _).bind fun fetched => ?_
  cases fetched with
  | notModified etag =>
    refine ((acceptNotModified_ensures input etag).imp (fun _ h => h.1.1) (fun _ _ h => h)
      fun _ _ h => h).bind fun _ => .pure fun s h => h
  | snapshot bytes etag =>
    refine (check_ensures (fun _ _ h => h.1.1) _).bind fun verified => ?_
    rintro s ⟨⟨⟨hs, -⟩, -⟩, hverified⟩
    exact acceptSnapshot_remote_ensures input etag (genuine_of_decodeAndVerify hverified) s hs

omit [UrlParser] [LawfulPrettyJson PersistedServiceTrustFloor]
  [PrettyJson PersistedServiceTrustCache] [Json ServiceTrustSnapshot] in
lemma postPendingReceipt_ensures (status : Option ℕ) :
    Ensures ReadyRemote (RemoteServiceTrustWatcher.postPendingReceipt status)
      (fun _ => ReadyRemote) (fun _ => ReadyRemote) := by
  unfold RemoteServiceTrustWatcher.postPendingReceipt
  refine .ite (fun _ => ?_) fun _ => .pure fun s h => h
  exact updateWatcher_ensures fun _ => by rfl

end RemotePolls

/-! ## Starts -/

section Starts

variable [Ed25519] [Base64] [PrettyJson PersistedServiceTrustFloor]
  [LawfulPrettyJson PersistedServiceTrustFloor] [Json ServiceTrustSnapshot]
  {W : Type} {accepted : W → PersistedServiceTrustFloor}

/-- What a start has left when it returns. -/
def Started (accepted : W → PersistedServiceTrustFloor) (running : Running W) (s : Session Unit) :
    Prop :=
  s.Sound ∧ ∃ snapshot, s.active = some snapshot ∧ Installed running.authorizer snapshot ∧
    accepted running.watcher = .fromVerified snapshot

lemma bootstrap_local_ensures (config : LocalTrustConfig) (input : LocalBootstrap) :
    Ensures Session.Sound (bootstrapSignedServiceTrust config input)
      (Started ServiceTrustWatcher.acceptedFloor) (fun _ => Session.Sound) := by
  unfold bootstrapSignedServiceTrust
  refine (check_ensures (fun _ _ h => h) _).bind fun _ => ?_
  refine (check_ensures (fun _ _ h => h.1) _).bind fun bytes => ?_
  refine (check_ensures (fun _ _ h => h.1.1) _).bind fun verified => ?_
  refine (check_ensures (fun _ _ h => h.1.1.1) _).bind fun _ => ?_
  refine (check_ensures (fun _ _ h => h.1.1.1.1) _).bind fun _ => ?_
  refine .read fun s hs => ?_
  have hsound : s.Sound := hs.1.1.1.1.1
  refine (check_ensures (A := (· = s)) (fun _ _ h => h ▸ hsound) _).bind (fun prior => ?_) s rfl
  refine (check_ensures (fun _ _ h => h.1 ▸ hsound) _).bind fun _ => ?_
  rintro s ⟨⟨rfl, hload⟩, hvalid⟩
  refine ((saveChangedFloor_ensures input.floorOutcome hvalid).imp (fun _ h => h)
    (fun _ _ h => h) fun _ _ h => h.sound).bind (fun _ => ?_) s
    ⟨FilesOnly.refl hsound, floorRecord_of_loadFloor hload⟩
  refine (check_ensures (fun _ _ h => h.1.sound) _).bind fun _ => ?_
  refine (check_ensures (fun _ _ h => h.1.1.sound) _).bind fun authorizer => ?_
  rintro s' ⟨⟨⟨hfiles, hfloor⟩, -⟩, hauthorizer⟩
  exact ⟨hfiles.sound.activated hfloor, verified, rfl,
    installed_of_requiredFromSignedSnapshot hauthorizer, rfl⟩

variable [UrlParser] [PrettyJson PersistedServiceTrustCache]

lemma bootstrap_remote_ensures (config : RemoteTrustConfig) (input : RemoteBootstrap) :
    Ensures Session.Sound (bootstrapRemoteSignedServiceTrust config input)
      (Started RemoteServiceTrustWatcher.acceptedFloor) (fun _ => Session.Sound) := by
  unfold bootstrapRemoteSignedServiceTrust
  intro s hs
  refine ((acquireSnapshot_ensures config input).imp (fun _ h => h) (fun _ _ h => h)
    fun _ _ h => h.sound).bind (fun acquired => ?_) s (FilesOnly.refl hs)
  refine (check_ensures (fun _ _ h => h.1.sound) _).bind fun _ => ?_
  refine (check_ensures (fun _ _ h => h.1.1.sound) _).bind fun authorizer => ?_
  rintro s' ⟨⟨⟨hfiles, hgenuine, hfloor⟩, -⟩, hauthorizer⟩
  have hinstalled := installed_of_requiredFromSignedSnapshot hauthorizer
  have hactivated := hfiles.sound.activated hfloor
  refine (signReceipt_ensures (A := (· = s'.activated acquired.1)) _ acquired.1 _
    fun _ _ h => h ▸ hactivated).bind (fun receipt => ?_) _ rfl
  rintro _ ⟨_, rfl, rfl, hsigned⟩
  exact ⟨hactivated.signed hgenuine hfloor rfl hsigned, acquired.1, rfl, hinstalled, rfl⟩

end Starts

/-! ## Runs -/

section Runs

variable [Ed25519] [Base64] [UrlParser] [PrettyJson PersistedServiceTrustFloor]
  [PrettyJson PersistedServiceTrustCache] [Json ServiceTrustSnapshot]
  {W α : Type} {accepted : W → PersistedServiceTrustFloor} {s s' : ReceiverState}

/-- What every step keeps. -/
structure ReceiverState.Safe (s : ReceiverState) : Prop where
  sound : s.Sound
  idle : s.process = none → s.active = none
  running : ∀ process, s.process = some process → ∃ snapshot, s.active = some snapshot ∧
    Installed process.authorizer snapshot ∧ CoversAll process.acceptedFloor s.moments

omit [UrlParser] [PrettyJson PersistedServiceTrustCache] [Json ServiceTrustSnapshot]

lemma Session.Sound.safe_ended {P : Type} {s : Session P} (h : s.Sound) : s.ended.Safe :=
  ⟨h.ended, fun _ => rfl, fun process hprocess => by cases hprocess⟩

/-- The state with a process that is ready. -/
theorem Ready.safe {s : Session (Running W)} (h : Ready accepted s) {process : Process}
    (hauthorizer : process.authorizer = s.process.authorizer)
    (hfloor : process.acceptedFloor = accepted s.process.watcher) :
    ReceiverState.Safe { s with process := some process } := by
  refine ⟨h.sound.frame rfl rfl rfl rfl, fun hnone => (by cases hnone), ?_⟩
  intro process' hprocess
  obtain rfl : process = process' := some.inj hprocess
  obtain ⟨snapshot, hactive, hinstalled⟩ := h.installed
  exact ⟨snapshot, hactive, hauthorizer ▸ hinstalled, hfloor ▸ h.accepted⟩

lemma safe_afterPoll (accepted : W → PersistedServiceTrustFloor) {wrap : Running W → Process}
    (hauthorizer : ∀ running, (wrap running).authorizer = running.authorizer)
    (hfloor : ∀ running, (wrap running).acceptedFloor = accepted running.watcher)
    {result : EStateM.Result Stop (Session (Running W)) α}
    (h : Ends (fun _ => Ready accepted) (fun _ => Ready accepted) result) :
    (afterPoll wrap result).Safe := by
  cases result with
  | ok a s => exact Ready.safe h (hauthorizer _) (hfloor _)
  | error stop s =>
    cases stop with
    | failed message => exact Ready.safe h (hauthorizer _) (hfloor _)
    | crashed => exact (Ready.sound h).safe_ended

lemma safe_afterStart (accepted : W → PersistedServiceTrustFloor) {wrap : Running W → Process}
    (hauthorizer : ∀ running, (wrap running).authorizer = running.authorizer)
    (hfloor : ∀ running, (wrap running).acceptedFloor = accepted running.watcher)
    {result : EStateM.Result Stop (Session Unit) (Running W)}
    (h : Ends (Started accepted) (fun _ => Session.Sound) result) :
    (afterStart wrap result).Safe := by
  cases result with
  | error stop s => exact Session.Sound.safe_ended h
  | ok running s =>
    obtain ⟨hsound, snapshot, hactive, hinstalled, haccepted⟩ := h
    refine ⟨hsound.frame rfl rfl rfl rfl, fun hnone => (by cases hnone), ?_⟩
    intro process hprocess
    obtain rfl : wrap running = process := some.inj hprocess
    refine ⟨snapshot, hactive, hauthorizer running ▸ hinstalled, ?_⟩
    rw [hfloor, haccepted]
    exact hsound.active hactive

omit [Ed25519] [Base64] [PrettyJson PersistedServiceTrustFloor] in
lemma Process.observe_installed {process : Process} {snapshot : VerifiedServiceTrustSnapshot}
    (h : Installed process.authorizer snapshot) (observedNowMs : UInt64) :
    Installed (process.observe observedNowMs).authorizer snapshot ∧
      (process.observe observedNowMs).acceptedFloor = process.acceptedFloor := by
  cases process with
  | localFile running => exact ⟨h, rfl⟩
  | remote running => exact ⟨h, rfl⟩

end Runs

section Runs

variable [Ed25519] [Base64] [UrlParser] [PrettyJson PersistedServiceTrustFloor]
  [LawfulPrettyJson PersistedServiceTrustFloor] [PrettyJson PersistedServiceTrustCache]
  [Json ServiceTrustSnapshot] {s s' : ReceiverState}

omit [LawfulPrettyJson PersistedServiceTrustFloor] [UrlParser]
  [PrettyJson PersistedServiceTrustCache] [Json ServiceTrustSnapshot] in
lemma ReceiverState.Fresh.safe (h : s.Fresh) : s.Safe := by
  obtain ⟨hfloor, hprocess, hactive, hmoments, hattestations⟩ := h
  have hrecord : s.disk.floorRecord = none := by
    unfold Disk.floorRecord
    rw [hfloor]
    rfl
  have hnever : ∀ m ∈ s.moments, m.active = none := by
    rw [hmoments]
    exact fun m hm => mem_singleton.mp hm ▸ rfl
  refine ⟨⟨?_, ?_, fun _ => ⟨hfloor, hnever⟩, ?_, ?_, ?_, ?_⟩, fun _ => hactive, ?_⟩
  · unfold Session.moment
    rw [hmoments, hrecord, hactive]
    rfl
  · intro floor hsome
    exact absurd (hrecord.symm.trans hsome) (by simp)
  · intro m hm snapshot hsnapshot
    exact absurd ((hnever m hm).symm.trans hsnapshot) (by simp)
  · rw [hmoments]
    exact pairwise_singleton _ _
  · rw [hattestations]
    exact fun attestation hmem => absurd hmem not_mem_nil
  · rw [hattestations]
    exact fun attestation hmem => absurd hmem not_mem_nil
  · intro process hsome
    exact absurd (hprocess.symm.trans hsome) (by simp)

omit [LawfulPrettyJson PersistedServiceTrustFloor] [UrlParser]
  [PrettyJson PersistedServiceTrustCache] [Json ServiceTrustSnapshot] in
/-- The process of a safe state, on its own. -/
theorem ReceiverState.Safe.ready {W : Type} {accepted : W → PersistedServiceTrustFloor}
    (h : s.Safe) {process : Process} {running : Running W} (hprocess : s.process = some process)
    (hauthorizer : process.authorizer = running.authorizer)
    (hfloor : process.acceptedFloor = accepted running.watcher) :
    Ready accepted { s with process := running } := by
  obtain ⟨snapshot, hactive, hinstalled, haccepted⟩ := h.running process hprocess
  exact ⟨h.sound.frame rfl rfl rfl rfl, ⟨snapshot, hactive, hauthorizer ▸ hinstalled⟩,
    hfloor ▸ haccepted⟩

lemma ReceiverState.Safe.step (h : s.Safe) {action : ReceiverAction}
    (hstep : s.step action = some s') : s'.Safe := by
  have hsound : ({ s with process := () } : Session Unit).Sound := h.sound.frame rfl rfl rfl rfl
  cases ReceiverState.stepped hstep with
  | startLocal config input =>
    exact safe_afterStart ServiceTrustWatcher.acceptedFloor (fun _ => rfl) (fun _ => rfl)
      (bootstrap_local_ensures config input _ hsound)
  | startRemote config input =>
    exact safe_afterStart RemoteServiceTrustWatcher.acceptedFloor (fun _ => rfl) (fun _ => rfl)
      (bootstrap_remote_ensures config input _ hsound)
  | pollLocal input running hprocess =>
    have hready : ReadyLocal { s with process := running } := h.ready hprocess rfl rfl
    exact safe_afterPoll ServiceTrustWatcher.acceptedFloor (fun _ => rfl) (fun _ => rfl)
      (reloadOnce_local_ensures input _ hready)
  | pollRemote input running hprocess =>
    have hready : ReadyRemote { s with process := running } := h.ready hprocess rfl rfl
    exact safe_afterPoll RemoteServiceTrustWatcher.acceptedFloor (fun _ => rfl) (fun _ => rfl)
      (reloadOnce_remote_ensures input _ hready)
  | postReceipt status running hprocess =>
    have hready : ReadyRemote { s with process := running } := h.ready hprocess rfl rfl
    exact safe_afterPoll RemoteServiceTrustWatcher.acceptedFloor (fun _ => rfl) (fun _ => rfl)
      (postPendingReceipt_ensures status _ hready)
  | observe observedNowMs =>
    refine ⟨h.sound.frame rfl rfl rfl rfl, fun hnone => h.idle (map_eq_none_iff.mp hnone), ?_⟩
    intro process hprocess
    obtain ⟨old, hold, rfl⟩ := map_eq_some_iff.mp hprocess
    obtain ⟨snapshot, hactive, hinstalled, haccepted⟩ := h.running old hold
    obtain ⟨hinstalled', hfloor⟩ := Process.observe_installed hinstalled observedNowMs
    exact ⟨snapshot, hactive, hinstalled', hfloor ▸ haccepted⟩
  | crash => exact h.sound.safe_ended
  | changeCache cache => exact ⟨h.sound.frame rfl rfl rfl rfl, h.idle, h.running⟩

lemma ReceiverState.Safe.of_reachable (h : receiverSystem.Reachable s) : s.Safe := by
  apply h.invariant
  · exact fun s hfresh => hfresh.safe
  · rintro s s' hsafe ⟨action, hstep⟩
    exact hsafe.step hstep

/-- At every moment the floor file is at least as new as the active policy. Over the lifetime of
the file the active policies only get newer, and two of one generation have the same root key
and the same signature. -/
theorem receiver_rollback_protection (s : ReceiverState) (h : receiverSystem.Reachable s) :
    s.moments.getLast? = some s.moment ∧
    (∀ process, s.process = some process →
      ∃ snapshot, s.active = some snapshot ∧ Installed process.authorizer snapshot) ∧
    (∀ m ∈ s.moments, ∀ snapshot, m.active = some snapshot →
      ∃ floor, m.floor = some floor ∧ snapshot.policy.generation ≤ floor.generation) ∧
    s.moments.Pairwise fun m m' => ∀ snapshot snapshot',
      m.active = some snapshot → m'.active = some snapshot' →
      snapshot.policy.generation ≤ snapshot'.policy.generation ∧
      (snapshot.policy.generation = snapshot'.policy.generation →
        snapshot.signingKeyId = snapshot'.signingKeyId ∧
          snapshot.signature = snapshot'.signature) := by
  have hsafe := ReceiverState.Safe.of_reachable h
  refine ⟨hsafe.sound.last, ?_, ?_, ?_⟩
  · intro process hprocess
    obtain ⟨snapshot, hactive, hinstalled, -⟩ := hsafe.running process hprocess
    exact ⟨snapshot, hactive, hinstalled⟩
  · intro m hm snapshot hactive
    obtain ⟨floor, hfloor, hcovers⟩ := hsafe.sound.covered m hm snapshot hactive
    exact ⟨floor, hfloor, hcovers.generation_le⟩
  · refine hsafe.sound.ordered.imp fun hprecedes snapshot snapshot' hactive hactive' => ?_
    have hcovers := hprecedes snapshot snapshot' hactive hactive'
    refine ⟨hcovers.generation_le, fun hsame => ?_⟩
    rcases hcovers with hlt | ⟨-, hkey, hsignature⟩
    · exact absurd hlt (hsame ▸ UInt64.lt_irrefl _)
    · exact ⟨hkey, hsignature⟩

end Runs

/-! ## A floor that is replaced without an activation -/

section Example

open Codec

def floorCodec : Codec PersistedServiceTrustFloor :=
  (string.pair (string.pair (u64.pair (string.pair string)))).map
    (fun f => (f.schema, f.clusterId, f.generation, f.signingKeyId, f.signature))
    (fun (a, b, c, d, e) => ⟨a, b, c, d, e⟩) fun _ => rfl

def cacheCodec : Codec PersistedServiceTrustCache :=
  (string.pair (string.pair ((option string).pair snapshotCodec))).map
    (fun c => (c.schema, c.distributorUrl, c.etag, c.snapshot)) (fun (a, b, c, d) => ⟨a, b, c, d⟩)
    fun _ => rfl

/-- Stands for the parser of URLs: the only one that is used is an origin. -/
@[reducible]
def originParser : UrlParser where
  parse _ := .ok ⟨"http", some "d", "", none, none, none, "/"⟩

def sampleStep : ReceiverState → ReceiverAction → Option ReceiverState :=
  @ReceiverState.step floorCodec.prettyJson checksumEd25519 standardBase64 originParser
    snapshotCodec.json cacheCodec.prettyJson

def sampleSystem : System ReceiverState :=
  @receiverSystem floorCodec.prettyJson checksumEd25519 standardBase64 originParser
    snapshotCodec.json cacheCodec.prettyJson

def nodeIdentity : SigningIdentity := ⟨"n", "k", nodeSeed⟩

/-- What the distributor serves. -/
def served (snapshot : ServiceTrustSnapshot) : Except String HttpResponse :=
  .ok ⟨200, none, none, [.ok (snapshotCodec.put snapshot)]⟩

def remoteConfig : RemoteTrustConfig where
  distributorUrl := "http://d"
  cachePath := "cache"
  floorPath := "floor"
  clusterId := "c"
  roots := roots
  validityConfig := ⟨false, 1000, 1000000⟩
  maxAgeMs := 30000
  maxFutureSkewMs := 5000

def startInput (snapshot : ServiceTrustSnapshot) : RemoteBootstrap where
  identity := nodeIdentity
  floorReadError := none
  cacheReadError := none
  cacheCheckedAtMs := 2000
  response := served snapshot
  observedAtMs := 2000
  cacheOutcome := .saved
  floorOutcome := .saved
  fallbackReadError := none
  fallbackAtMs := 2000
  activatedAtMs := 2000
  activationIdentity := nodeIdentity

def pollInput (snapshot : ServiceTrustSnapshot) (floorOutcome : SaveOutcome) : RemotePoll where
  response := served snapshot
  identity := nodeIdentity
  observedAtMs := 3000
  cacheReadError := none
  cacheOutcome := .saved
  floorOutcome := floorOutcome
  activationIdentity := nodeIdentity
  activationAtMs := 3000

def freshReceiver : ReceiverState := ⟨⟨none, none⟩, none, none, [⟨none, none⟩], []⟩

/-- The floor of the second policy is in place when its save fails. -/
def unsyncedFloor : List ReceiverAction := [
  .startRemote remoteConfig (startInput firstSnapshot),
  .pollRemote (pollInput secondSnapshot (.failed true "directory sync failed")),
  .crash]

/-- The generations of the floor and of the active policy. -/
def Moment.generations (m : Moment) : Option UInt64 × Option UInt64 :=
  (m.floor.map PersistedServiceTrustFloor.generation, m.active.map fun snapshot =>
    snapshot.policy.generation)

theorem receiver_rollback_protection_unsynced : ∃ s, sampleSystem.Reachable s ∧
    s.moments.map Moment.generations =
      [(none, none), (some 1, none), (some 1, some 1), (some 2, some 1), (some 2, none)] ∧
    ∀ m ∈ s.moments, ∀ snapshot, m.active = some snapshot →
      ∃ floor, m.floor = some floor ∧ snapshot.policy.generation ≤ floor.generation := by
  have hrun : (unsyncedFloor.foldlM sampleStep freshReceiver).map
      (fun s => s.moments.map Moment.generations) = some
      [(none, none), (some 1, none), (some 1, some 1), (some 2, some 1), (some 2, none)] := by
    decide +kernel
  obtain ⟨s, hs, hmoments⟩ := map_eq_some_iff.mp hrun
  have hreachable : sampleSystem.Reachable s := ⟨freshReceiver, ⟨rfl, rfl, rfl, rfl, rfl⟩,
    System.Steps.of_actions (fun _ action _ h => ⟨action, h⟩) hs⟩
  exact ⟨s, hreachable, hmoments, (@receiver_rollback_protection checksumEd25519 standardBase64
    originParser floorCodec.prettyJson floorCodec.lawful_prettyJson cacheCodec.prettyJson
    snapshotCodec.json s hreachable).2.2.1⟩

end Example

end InferLab.Receiver
