import InferLab.Receiver.Watchers

/-!
# Control plane: a receiver over the lifetime of its floor file

Starts, polls and crashes come in any order, with anything served to the receiver and any
outcome of its writes. `Session.Sound` says what holds at every moment: the floor is at least as
new as every policy that was ever active.
-/

namespace InferLab.Receiver

open ServiceAuth Attempt List Option

/-- A receiver runs one of the two watchers. -/
inductive Process
  | localFile (running : Running ServiceTrustWatcher)
  | remote (running : Running RemoteServiceTrustWatcher)
deriving Repr, DecidableEq

def Process.authorizer : Process → ServiceAuthorizer
  | localFile running => running.authorizer
  | remote running => running.authorizer

def Process.acceptedFloor : Process → PersistedServiceTrustFloor
  | localFile running => running.watcher.acceptedFloor
  | remote running => running.watcher.acceptedFloor

/-- A receiver and its disk. -/
abbrev ReceiverState : Type := Session (Option Process)

/-- What happens to a receiver. -/
inductive ReceiverAction
  | startLocal (config : LocalTrustConfig) (input : LocalBootstrap)
  | startRemote (config : RemoteTrustConfig) (input : RemoteBootstrap)
  | pollLocal (input : LocalPoll)
  | pollRemote (input : RemotePoll)
  | postReceipt (status : Option ℕ)
  /-- Requests and status reports read the clock. -/
  | observe (observedNowMs : UInt64)
  | crash
  /-- The cache is not trusted: anyone may change it. -/
  | changeCache (cache : Option Wire.Bytes)
deriving Repr, DecidableEq

section System

variable [PrettyJson PersistedServiceTrustFloor] {W α : Type}

/-- The process is gone, and with it the active policy. -/
def Session.ended {P : Type} (s : Session P) : ReceiverState :=
  Session.observed { s with process := none, active := none }

/-- A start that fails ends the process. -/
def afterStart (wrap : Running W → Process) :
    EStateM.Result Stop (Session Unit) (Running W) → ReceiverState
  | .ok running s => { s with process := some (wrap running) }
  | .error _ s => s.ended

/-- A poll that fails leaves the process as it is then. -/
def afterPoll (wrap : Running W → Process) :
    EStateM.Result Stop (Session (Running W)) α → ReceiverState
  | .ok _ s => { s with process := some (wrap s.process) }
  | .error (.failed _) s => { s with process := some (wrap s.process) }
  | .error .crashed s => s.ended

def Process.observe (observedNowMs : UInt64) : Process → Process
  | localFile running => localFile { running with
      authorizer := running.authorizer.observeWallClock observedNowMs }
  | remote running => remote { running with
      authorizer := running.authorizer.observeWallClock observedNowMs }

variable [Ed25519] [Base64] [UrlParser] [Json ServiceTrustSnapshot]
  [PrettyJson PersistedServiceTrustCache]

def ReceiverState.step (s : ReceiverState) : ReceiverAction → Option ReceiverState
  | .startLocal config input =>
    match s.process with
    | none => some (afterStart .localFile
        (bootstrapSignedServiceTrust config input { s with process := () }))
    | some _ => none
  | .startRemote config input =>
    match s.process with
    | none => some (afterStart .remote
        (bootstrapRemoteSignedServiceTrust config input { s with process := () }))
    | some _ => none
  | .pollLocal input =>
    match s.process with
    | some (.localFile running) => some (afterPoll .localFile
        (ServiceTrustWatcher.reloadOnce input { s with process := running }))
    | _ => none
  | .pollRemote input =>
    match s.process with
    | some (.remote running) => some (afterPoll .remote
        (RemoteServiceTrustWatcher.reloadOnce input { s with process := running }))
    | _ => none
  | .postReceipt status =>
    match s.process with
    | some (.remote running) => some (afterPoll .remote
        (RemoteServiceTrustWatcher.postPendingReceipt status { s with process := running }))
    | _ => none
  | .observe observedNowMs =>
    some { s with process := s.process.map (Process.observe observedNowMs) }
  | .crash => some s.ended
  | .changeCache cache => some { s with disk := { s.disk with cache := cache } }

/-- What a step is: the change of an action that the state allows. -/
inductive Stepped (s : ReceiverState) : ReceiverAction → ReceiverState → Prop
  | startLocal (config : LocalTrustConfig) (input : LocalBootstrap) (hidle : s.process = none) :
      Stepped s (.startLocal config input) (afterStart .localFile
        (bootstrapSignedServiceTrust config input { s with process := () }))
  | startRemote (config : RemoteTrustConfig) (input : RemoteBootstrap) (hidle : s.process = none) :
      Stepped s (.startRemote config input) (afterStart .remote
        (bootstrapRemoteSignedServiceTrust config input { s with process := () }))
  | pollLocal (input : LocalPoll) (running : Running ServiceTrustWatcher)
      (hprocess : s.process = some (.localFile running)) :
      Stepped s (.pollLocal input) (afterPoll .localFile
        (ServiceTrustWatcher.reloadOnce input { s with process := running }))
  | pollRemote (input : RemotePoll) (running : Running RemoteServiceTrustWatcher)
      (hprocess : s.process = some (.remote running)) :
      Stepped s (.pollRemote input) (afterPoll .remote
        (RemoteServiceTrustWatcher.reloadOnce input { s with process := running }))
  | postReceipt (status : Option ℕ) (running : Running RemoteServiceTrustWatcher)
      (hprocess : s.process = some (.remote running)) :
      Stepped s (.postReceipt status) (afterPoll .remote
        (RemoteServiceTrustWatcher.postPendingReceipt status { s with process := running }))
  | observe (observedNowMs : UInt64) : Stepped s (.observe observedNowMs)
      { s with process := s.process.map (Process.observe observedNowMs) }
  | crash : Stepped s .crash s.ended
  | changeCache (cache : Option Wire.Bytes) : Stepped s (.changeCache cache)
      { s with disk := { s.disk with cache := cache } }

lemma ReceiverState.stepped {s s' : ReceiverState} {action : ReceiverAction}
    (h : s.step action = some s') : Stepped s action s' := by
  cases action with
  | startLocal config input =>
    simp only [ReceiverState.step] at h
    split at h
    case h_1 hidle => exact some.inj h ▸ .startLocal config input hidle
    case h_2 => cases h
  | startRemote config input =>
    simp only [ReceiverState.step] at h
    split at h
    case h_1 hidle => exact some.inj h ▸ .startRemote config input hidle
    case h_2 => cases h
  | pollLocal input =>
    simp only [ReceiverState.step] at h
    split at h
    case h_1 running hprocess => exact some.inj h ▸ .pollLocal input running hprocess
    case h_2 => cases h
  | pollRemote input =>
    simp only [ReceiverState.step] at h
    split at h
    case h_1 running hprocess => exact some.inj h ▸ .pollRemote input running hprocess
    case h_2 => cases h
  | postReceipt status =>
    simp only [ReceiverState.step] at h
    split at h
    case h_1 running hprocess => exact some.inj h ▸ .postReceipt status running hprocess
    case h_2 => cases h
  | observe observedNowMs => exact some.inj h ▸ .observe observedNowMs
  | crash => exact some.inj h ▸ .crash
  | changeCache cache => exact some.inj h ▸ .changeCache cache

/-- Nothing has been accepted yet. -/
def ReceiverState.Fresh (s : ReceiverState) : Prop :=
  s.disk.floor = none ∧ s.process = none ∧ s.active = none ∧ s.moments = [⟨none, none⟩] ∧
    s.attestations = []

def receiverSystem : System ReceiverState where
  init := ReceiverState.Fresh
  step s s' := ∃ action, s.step action = some s'

end System

/-! ## Newer policies -/

/-- The floor is at least as new as the policy, and it is the policy's own if as new. -/
def Covers (floor : PersistedServiceTrustFloor) (snapshot : VerifiedServiceTrustSnapshot) : Prop :=
  snapshot.policy.generation < floor.generation ∨
    (snapshot.policy.generation = floor.generation ∧
      snapshot.signingKeyId = floor.signingKeyId ∧ snapshot.signature = floor.signature)

/-- The floor is at least as new as every policy that was ever active. -/
def CoversAll (floor : PersistedServiceTrustFloor) (moments : List Moment) : Prop :=
  ∀ m ∈ moments, ∀ snapshot, m.active = some snapshot → Covers floor snapshot

section Covers

variable {floor : PersistedServiceTrustFloor} {snapshot : VerifiedServiceTrustSnapshot}
  {moments : List Moment}

lemma covers_fromVerified : Covers (.fromVerified snapshot) snapshot :=
  .inr ⟨rfl, rfl, rfl⟩

lemma Covers.generation_le (h : Covers floor snapshot) :
    snapshot.policy.generation ≤ floor.generation := by
  rcases h with hlt | ⟨heq, -⟩
  · exact UInt64.le_of_lt hlt
  · exact heq ▸ UInt64.le_refl _

/-- A candidate that passes the check is at least as new as the floor. -/
theorem coversAll_of_validateCandidateFloor {u : Unit}
    (hvalid : validateCandidateFloor snapshot (some floor) = .ok u)
    (hall : CoversAll floor moments) : CoversAll (.fromVerified snapshot) moments := by
  simp only [validateCandidateFloor, bind_eq_ok_iff, require_eq_ok_iff] at hvalid
  obtain ⟨_, _, _, hle, hsame⟩ := hvalid
  have hle := of_decide_eq_true hle
  intro m hm old hold
  rcases hall m hm old hold with hlt | ⟨heq, hkey, hsignature⟩
  · exact .inl (UInt64.lt_of_lt_of_le hlt hle)
  · by_cases hgeneration : snapshot.policy.generation = floor.generation
    · -- at the same generation the check compares the key and the signature
      simp only [hgeneration, beq_self_eq_true, Bool.true_and, Bool.not_eq_true',
        Bool.or_eq_false_iff, bne_eq_false_iff_eq] at hsame
      exact .inr ⟨heq.trans hgeneration.symm, hkey.trans hsame.1.symm,
        hsignature.trans hsame.2.symm⟩
    · left
      rw [heq]
      exact UInt64.lt_of_le_of_ne hle (Ne.symm hgeneration)

lemma CoversAll.append (hall : CoversAll floor moments) {m : Moment}
    (hm : ∀ snapshot, m.active = some snapshot → Covers floor snapshot) :
    CoversAll floor (moments ++ [m]) := by
  intro m' hm'
  rcases mem_append.mp hm' with hold | hnew
  · exact hall m' hold
  · exact mem_singleton.mp hnew ▸ hm

end Covers

/-! ## What holds at every moment -/

section Sound

variable [Ed25519] [Base64] [PrettyJson PersistedServiceTrustFloor] {P P' : Type}

/-- A root has signed the policy. -/
def Genuine (snapshot : VerifiedServiceTrustSnapshot) : Prop :=
  ∃ (roots : TrustedServiceTrustRootKeyRing) (signed : ServiceTrustSnapshot),
    roots.verify signed = .ok snapshot

/-- The receipt was signed while the policy that it is about was active and its floor saved. -/
def Attestation.Honest (attestation : Attestation) : Prop :=
  ∃ snapshot appliedAtMs, Genuine snapshot ∧
    attestation.moment = ⟨some (.fromVerified snapshot), some snapshot⟩ ∧
    signTrustReceiptWithKey attestation.identity.serviceId attestation.identity.credentialId
      attestation.identity.seed snapshot appliedAtMs = .ok attestation.receipt

/-- The later policy is at least as new, and it is the same one if as new. -/
def Moment.Precedes (m m' : Moment) : Prop :=
  ∀ snapshot snapshot', m.active = some snapshot → m'.active = some snapshot' →
    Covers (.fromVerified snapshot') snapshot

/-- The floor of the moment is at least as new as its policy. -/
def Moment.Covered (m : Moment) : Prop :=
  ∀ snapshot, m.active = some snapshot → ∃ floor, m.floor = some floor ∧ Covers floor snapshot

/-- The floor covers what was active at any moment. -/
structure Session.Sound (s : Session P) : Prop where
  last : s.moments.getLast? = some s.moment
  floor : ∀ floor, s.disk.floorRecord = some floor → CoversAll floor s.moments
  noFloor : s.disk.floorRecord = none → s.disk.floor = none ∧ ∀ m ∈ s.moments, m.active = none
  covered : ∀ m ∈ s.moments, m.Covered
  ordered : s.moments.Pairwise Moment.Precedes
  attested : ∀ attestation ∈ s.attestations, attestation.Honest
  recorded : ∀ attestation ∈ s.attestations, attestation.moment ∈ s.moments

namespace Session.Sound

variable {s : Session P} {s' : Session P'}

lemma moment_mem (h : s.Sound) : s.moment ∈ s.moments := mem_of_getLast? h.last

/-- The active policy is the newest. -/
theorem active (h : s.Sound) {snapshot : VerifiedServiceTrustSnapshot}
    (hactive : s.active = some snapshot) : CoversAll (.fromVerified snapshot) s.moments := by
  intro m hm old hold
  obtain ⟨before, hbefore⟩ := List.getLast?_eq_some_iff.mp h.last
  have hordered := h.ordered
  rw [hbefore] at hm hordered
  rcases mem_append.mp hm with hmem | hlast
  · exact (pairwise_append.mp hordered).2.2 m hmem s.moment (mem_singleton_self _) old
      snapshot hold hactive
  · obtain rfl := mem_singleton.mp hlast
    obtain rfl : snapshot = old := some.inj (hactive.symm.trans hold)
    exact covers_fromVerified

/-- Changes that an observer does not see. -/
theorem frame (h : s.Sound) (hfloor : s'.disk.floor = s.disk.floor)
    (hactive : s'.active = s.active) (hmoments : s'.moments = s.moments)
    (hattestations : s'.attestations = s.attestations) : s'.Sound := by
  have hrecord : s'.disk.floorRecord = s.disk.floorRecord := by
    unfold Disk.floorRecord
    rw [hfloor]
  have hmoment : s'.moment = s.moment := by
    unfold Session.moment
    rw [hrecord, hactive]
  refine ⟨?_, ?_, ?_, ?_, ?_, ?_, ?_⟩
  · rw [hmoments, hmoment]
    exact h.last
  · rw [hrecord, hmoments]
    exact h.floor
  · rw [hrecord, hfloor, hmoments]
    exact h.noFloor
  · rw [hmoments]
    exact h.covered
  · rw [hmoments]
    exact h.ordered
  · rw [hattestations]
    exact h.attested
  · rw [hattestations, hmoments]
    exact h.recorded

/-- A change that an observer sees: to a floor and a policy that are new enough. -/
theorem push (h : s.Sound) (hmoments : s'.moments = s.moments ++ [s'.moment])
    (hattestations : s'.attestations = s.attestations) {floor : PersistedServiceTrustFloor}
    (hrecord : s'.disk.floorRecord = some floor) (hfloor : CoversAll floor s.moments)
    (hactive : ∀ snapshot, s'.active = some snapshot →
      Covers floor snapshot ∧ CoversAll (.fromVerified snapshot) s.moments) : s'.Sound := by
  refine ⟨?_, ?_, ?_, ?_, ?_, ?_, ?_⟩
  · rw [hmoments, List.getLast?_concat]
  · intro floor' hfloor'
    obtain rfl : floor = floor' := some.inj (hrecord.symm.trans hfloor')
    rw [hmoments]
    exact hfloor.append fun snapshot hsnapshot => (hactive snapshot hsnapshot).1
  · rw [hrecord]
    intro hnone
    cases hnone
  · rw [hmoments]
    intro m hm
    rcases mem_append.mp hm with hold | hnew
    · exact h.covered m hold
    · obtain rfl := mem_singleton.mp hnew
      exact fun snapshot hsnapshot => ⟨floor, hrecord, (hactive snapshot hsnapshot).1⟩
  · rw [hmoments, pairwise_append]
    refine ⟨h.ordered, pairwise_singleton _ _, ?_⟩
    intro m hm m' hm' old new hold hnew
    obtain rfl := mem_singleton.mp hm'
    exact (hactive new hnew).2 m hm old hold
  · rw [hattestations]
    exact h.attested
  · rw [hattestations, hmoments]
    exact fun attestation hmem => mem_append_left _ (h.recorded attestation hmem)

lemma ended (h : s.Sound) : (s.ended).Sound := by
  cases hrecord : s.disk.floorRecord with
  | some floor =>
    exact h.push rfl rfl hrecord (h.floor floor hrecord) fun snapshot hactive => by cases hactive
  | none =>
    obtain ⟨hfloor, hnever⟩ := h.noFloor hrecord
    have hended : s.ended.moments = s.moments ++ [⟨none, none⟩] := by
      show s.moments ++ [⟨s.disk.floorRecord, none⟩] = _
      rw [hrecord]
    have hall : ∀ m ∈ s.ended.moments, m.active = none := by
      rw [hended]
      intro m hm
      rcases mem_append.mp hm with hold | hnew
      · exact hnever m hold
      · exact mem_singleton.mp hnew ▸ rfl
    refine ⟨List.getLast?_concat, ?_, fun _ => ⟨hfloor, hall⟩, ?_, ?_, h.attested,
      fun attestation hmem => mem_append_left _ (h.recorded attestation hmem)⟩
    · intro floor hfloor'
      exact absurd (hrecord.symm.trans hfloor') (by simp)
    · intro m hm snapshot hsnapshot
      exact absurd ((hall m hm).symm.trans hsnapshot) (by simp)
    · rw [pairwise_iff_forall_sublist]
      intro m m' hsub snapshot snapshot' hsnapshot
      have hm : m ∈ s.ended.moments := hsub.subset mem_cons_self
      exact absurd ((hall m hm).symm.trans hsnapshot) (by simp)

variable [LawfulPrettyJson PersistedServiceTrustFloor] {floor : PersistedServiceTrustFloor}

omit [Ed25519] [Base64] in
lemma floorRecord_replaceFloor :
    (s.replaceFloor (PrettyJson.toVecPretty floor ++ [10])).disk.floorRecord = some floor :=
  LawfulPrettyJson.fromSlice_toVecPretty floor

lemma replaceFloor (h : s.Sound) (hall : CoversAll floor s.moments) :
    (s.replaceFloor (PrettyJson.toVecPretty floor ++ [10])).Sound := by
  refine h.push rfl rfl floorRecord_replaceFloor hall fun snapshot hactive => ?_
  exact ⟨hall s.moment h.moment_mem snapshot hactive, h.active hactive⟩

omit [LawfulPrettyJson PersistedServiceTrustFloor]

lemma activated (h : s.Sound) {snapshot : VerifiedServiceTrustSnapshot}
    (hfloor : s.disk.floorRecord = some (.fromVerified snapshot)) :
    (s.activated snapshot).Sound := by
  have hall := h.floor _ hfloor
  refine h.push rfl rfl hfloor hall fun active hactive => ?_
  obtain rfl : snapshot = active := some.inj hactive
  exact ⟨covers_fromVerified, hall⟩

lemma signed (h : s.Sound) {identity : SigningIdentity}
    {receipt : ServiceTrustApplicationReceipt} {snapshot : VerifiedServiceTrustSnapshot}
    {appliedAtMs : UInt64} (hgenuine : Genuine snapshot)
    (hfloor : s.disk.floorRecord = some (.fromVerified snapshot))
    (hactive : s.active = some snapshot)
    (hsigned : signTrustReceiptWithKey identity.serviceId identity.credentialId identity.seed
      snapshot appliedAtMs = .ok receipt) : (s.attested identity receipt).Sound := by
  refine ⟨h.last, h.floor, h.noFloor, h.covered, h.ordered, ?_, ?_⟩ <;>
    intro attestation hmem <;>
    rcases mem_append.mp hmem with hold | hnew
  · exact h.attested attestation hold
  · obtain rfl := mem_singleton.mp hnew
    refine ⟨snapshot, appliedAtMs, hgenuine, ?_, hsigned⟩
    show s.moment = _
    unfold Session.moment
    rw [hfloor, hactive]
  · exact h.recorded attestation hold
  · obtain rfl := mem_singleton.mp hnew
    exact h.moment_mem

/-- A candidate that passes the check against the floor file is at least as new as every policy
that was ever active. -/
theorem candidate (h : s.Sound) {prior : Option PersistedServiceTrustFloor} {u : Unit}
    {snapshot : VerifiedServiceTrustSnapshot} (hprior : s.disk.floorRecord = prior)
    (hvalid : validateCandidateFloor snapshot prior = .ok u) :
    CoversAll (.fromVerified snapshot) s.moments := by
  cases prior with
  | none =>
    intro m hm old hold
    exact absurd (((h.noFloor hprior).2 m hm).symm.trans hold) (by simp)
  | some floor => exact coversAll_of_validateCandidateFloor hvalid (h.floor floor hprior)

end Session.Sound

end Sound

/-! ## Calls that change files only -/

section Files

variable [Ed25519] [Base64] [PrettyJson PersistedServiceTrustFloor] {P α : Type}
  {s₀ s : Session P}

/-- Since `s₀` only files have changed. -/
structure FilesOnly (s₀ s : Session P) : Prop where
  sound : s.Sound
  process : s.process = s₀.process
  active : s.active = s₀.active
  covers : ∀ floor, CoversAll floor s₀.moments → CoversAll floor s.moments

lemma FilesOnly.refl (h : s.Sound) : FilesOnly s s := ⟨h, rfl, rfl, fun _ h => h⟩

lemma FilesOnly.replaceCache (h : FilesOnly s₀ s) (bytes : Wire.Bytes) :
    FilesOnly s₀ (s.replaceCache bytes) :=
  ⟨h.sound.frame rfl rfl rfl rfl, h.process, h.active, h.covers⟩

lemma FilesOnly.replaceFloor [LawfulPrettyJson PersistedServiceTrustFloor]
    (h : FilesOnly s₀ s) {floor : PersistedServiceTrustFloor} (hall : CoversAll floor s.moments) :
    FilesOnly s₀ (s.replaceFloor (PrettyJson.toVecPretty floor ++ [10])) := by
  refine ⟨h.sound.replaceFloor hall, h.process, h.active, fun other hother => ?_⟩
  exact (h.covers other hother).append fun snapshot hactive =>
    h.covers other hother s.moment h.sound.moment_mem snapshot hactive

variable {E : Stop → Session P → Prop}

omit [Ed25519] [Base64] [PrettyJson PersistedServiceTrustFloor] in
lemma check_ensures {A : Session P → Prop} (hE : ∀ e s, A s → E e s) (x : Except String α) :
    Ensures A (check x) (fun a s => A s ∧ x = .ok a) E := by
  intro s hs
  cases x with
  | ok a => exact ⟨hs, rfl⟩
  | error message => exact hE _ s hs

omit [Ed25519] [Base64] [PrettyJson PersistedServiceTrustFloor] in
lemma attempt_ensures {A : Session P → Prop} {x : Call P α} {Q : α → Session P → Prop}
    (hx : Ensures A x Q E) :
    Ensures A (attempt x)
      (fun r s => (∀ a, r = .ok a → Q a s) ∧ ∀ message, r = .error message → E (.failed message) s)
      E := by
  intro s hs
  have h := hx s hs
  unfold attempt
  cases hresult : x s with
  | ok a s' =>
    rw [hresult] at h
    exact ⟨fun b hb => Except.ok.inj hb ▸ h, fun message hmessage => by cases hmessage⟩
  | error stop s' =>
    rw [hresult] at h
    cases stop with
    | failed message =>
      exact ⟨fun b hb => (by cases hb), fun other hother => Except.error.inj hother ▸ h⟩
    | crashed => exact h

omit [Ed25519] [Base64] [PrettyJson PersistedServiceTrustFloor] in
lemma replaceFile_ensures {A R : Session P → Prop} {replace : Session P → Session P}
    (hreplace : ∀ s, A s → R (replace s)) (hA : ∀ e s, A s → E e s) (hR : ∀ e s, R s → E e s)
    (outcome : SaveOutcome) : Ensures A (replaceFile replace outcome) (fun _ s => R s) E := by
  intro s hs
  cases outcome with
  | saved => exact hreplace s hs
  | failed replaced message =>
    cases replaced with
    | true => exact hR _ _ (hreplace s hs)
    | false => exact hA _ s hs
  | crashed replaced =>
    cases replaced with
    | true => exact hR _ _ (hreplace s hs)
    | false => exact hA _ s hs

omit [Ed25519] [Base64] in
/-- The floor that is loaded is what the file says. -/
theorem floorRecord_of_loadFloor {path : String} {disk : Disk} {readError : Option String}
    {floor : Option PersistedServiceTrustFloor} (h : loadFloor path disk readError = .ok floor) :
    disk.floorRecord = floor := by
  unfold loadFloor at h
  unfold Disk.floorRecord
  cases readError with
  | some message => cases h
  | none =>
    cases hfloor : disk.floor with
    | none =>
      rw [hfloor] at h
      cases h
      rfl
    | some bytes =>
      rw [hfloor] at h
      obtain ⟨_, _, h⟩ := of_bind h
      cases hdecoded : (Json.fromSlice bytes : Option PersistedServiceTrustFloor) with
      | none =>
        rw [hdecoded] at h
        cases h
      | some floor =>
        rw [hdecoded] at h
        obtain ⟨_, _, h⟩ := of_bind h
        cases h
        exact hdecoded

section Saves

variable [LawfulPrettyJson PersistedServiceTrustFloor]

/-- A floor that is new enough may be saved; when the call returns, the file holds it. -/
theorem saveFloor_ensures (floor : PersistedServiceTrustFloor) (outcome : SaveOutcome) :
    Ensures (fun s => FilesOnly s₀ s ∧ CoversAll floor s.moments) (saveFloor floor outcome)
      (fun _ s => FilesOnly s₀ s ∧ s.disk.floorRecord = some floor) (fun _ => FilesOnly s₀) := by
  unfold saveFloor
  refine (check_ensures (fun _ _ h => h.1) _).bind fun _ => ?_
  refine (check_ensures (fun _ _ h => h.1.1) _).bind fun _ => ?_
  refine replaceFile_ensures ?_ (fun _ _ h => h.1.1.1) (fun _ _ h => h.1) outcome
  rintro s ⟨⟨⟨hfiles, hall⟩, -⟩, -⟩
  exact ⟨hfiles.replaceFloor hall, Session.Sound.floorRecord_replaceFloor⟩

lemma saveChangedFloor_ensures {prior : Option PersistedServiceTrustFloor}
    {snapshot : VerifiedServiceTrustSnapshot} (outcome : SaveOutcome)
    (hvalid : validateCandidateFloor snapshot prior = .ok ()) :
    Ensures (fun s => FilesOnly s₀ s ∧ s.disk.floorRecord = prior)
      (saveChangedFloor prior (.fromVerified snapshot) outcome)
      (fun _ s => FilesOnly s₀ s ∧ s.disk.floorRecord = some (.fromVerified snapshot))
      (fun _ => FilesOnly s₀) := by
  unfold saveChangedFloor
  by_cases hchanged : prior ≠ some (.fromVerified snapshot)
  · rw [if_pos hchanged]
    refine (saveFloor_ensures _ outcome).imp ?_ (fun _ _ h => h) (fun _ _ h => h)
    rintro s ⟨hfiles, hprior⟩
    exact ⟨hfiles, hfiles.sound.candidate hprior hvalid⟩
  · rw [if_neg hchanged]
    exact .pure fun s h => ⟨h.1, h.2.trans (not_not.mp hchanged)⟩

variable [UrlParser] [PrettyJson PersistedServiceTrustCache]

omit [LawfulPrettyJson PersistedServiceTrustFloor] in
lemma saveCache_ensures (cache : PersistedServiceTrustCache) (outcome : SaveOutcome)
    {floor : PersistedServiceTrustFloor} :
    Ensures (fun s => FilesOnly s₀ s ∧ CoversAll floor s.moments) (saveCache cache outcome)
      (fun _ s => FilesOnly s₀ s ∧ CoversAll floor s.moments) (fun _ => FilesOnly s₀) := by
  unfold saveCache
  refine (check_ensures (fun _ _ h => h.1) _).bind fun _ => ?_
  refine (check_ensures (fun _ _ h => h.1.1) _).bind fun _ => ?_
  refine replaceFile_ensures ?_ (fun _ _ h => h.1.1.1) (fun _ _ h => h.1) outcome
  rintro s ⟨⟨⟨hfiles, hall⟩, -⟩, -⟩
  exact ⟨hfiles.replaceCache _, hall⟩

lemma persistRemoteAcceptance_ensures (url : String) (etag : Option String)
    (snapshot : VerifiedServiceTrustSnapshot) (cacheOutcome floorOutcome : SaveOutcome) :
    Ensures (fun s => FilesOnly s₀ s ∧ CoversAll (.fromVerified snapshot) s.moments)
      (persistRemoteAcceptanceRedacted url etag snapshot cacheOutcome floorOutcome)
      (fun _ s => FilesOnly s₀ s ∧ s.disk.floorRecord = some (.fromVerified snapshot))
      (fun _ => FilesOnly s₀) := by
  have hpersist : Ensures (fun s => FilesOnly s₀ s ∧ CoversAll (.fromVerified snapshot) s.moments)
      (persistRemoteAcceptance url etag snapshot cacheOutcome floorOutcome)
      (fun _ s => FilesOnly s₀ s ∧ s.disk.floorRecord = some (.fromVerified snapshot))
      (fun _ => FilesOnly s₀) := by
    unfold persistRemoteAcceptance
    refine (check_ensures (fun _ _ h => h.1) _).bind fun version => ?_
    refine (((saveCache_ensures _ cacheOutcome).imp (fun _ h => h.1) (fun _ _ h => h)
      (fun _ _ h => h)).bind fun _ => ?_)
    exact saveFloor_ensures _ floorOutcome
  unfold persistRemoteAcceptanceRedacted
  refine (attempt_ensures hpersist).bind fun result => ?_
  cases result with
  | ok _ => exact .pure fun s h => h.1 _ rfl
  | error message => exact .throw fun s h => h.2 message rfl

variable [Json ServiceTrustSnapshot]

omit [PrettyJson PersistedServiceTrustFloor] [LawfulPrettyJson PersistedServiceTrustFloor]
  [UrlParser] [PrettyJson PersistedServiceTrustCache] in
lemma genuine_of_decodeAndVerify {bytes : Wire.Bytes} {clusterId : String}
    {roots : TrustedServiceTrustRootKeyRing} {snapshot : VerifiedServiceTrustSnapshot}
    (h : decodeAndVerify bytes clusterId roots = .ok snapshot) : Genuine snapshot := by
  unfold decodeAndVerify at h
  cases hdecoded : (Json.fromSlice bytes : Option ServiceTrustSnapshot) with
  | none =>
    rw [hdecoded] at h
    cases h
  | some signed =>
    rw [hdecoded] at h
    obtain ⟨_, _, h⟩ := of_bind h
    exact ⟨roots, signed, of_mapError h⟩

omit [PrettyJson PersistedServiceTrustFloor] [LawfulPrettyJson PersistedServiceTrustFloor] in
lemma of_loadVerifiedCache {verification : CacheVerificationContext} {disk : Disk}
    {readError : Option String} {floor : Option PersistedServiceTrustFloor}
    {observedAtMs : UInt64} {cached : VerifiedCachedSnapshot}
    (h : loadVerifiedCache verification disk readError floor observedAtMs = .ok (some cached)) :
    Genuine cached.verified ∧ validateCandidateFloor cached.verified floor = .ok () := by
  obtain ⟨cache, _, h⟩ := of_bind h
  cases cache with
  | none => cases h
  | some cache =>
    obtain ⟨_, _, h⟩ := of_bind h
    obtain ⟨verified, hverified, h⟩ := of_bind h
    obtain ⟨_, _, h⟩ := of_bind h
    obtain ⟨_, _, h⟩ := of_bind h
    obtain ⟨_, hfloor, h⟩ := of_bind h
    cases h
    exact ⟨genuine_of_decodeAndVerify hverified, hfloor⟩

omit [PrettyJson PersistedServiceTrustFloor] [LawfulPrettyJson PersistedServiceTrustFloor]
  [UrlParser] [PrettyJson PersistedServiceTrustCache] in
lemma of_verifyServedSnapshot {config : RemoteTrustConfig} {input : RemoteBootstrap}
    {floor : Option PersistedServiceTrustFloor} {bytes : Wire.Bytes}
    {snapshot : VerifiedServiceTrustSnapshot}
    (h : verifyServedSnapshot config input floor bytes = .ok snapshot) :
    Genuine snapshot ∧ validateCandidateFloor snapshot floor = .ok () := by
  obtain ⟨verified, hverified, h⟩ := of_bind h
  obtain ⟨_, _, h⟩ := of_bind h
  obtain ⟨_, _, h⟩ := of_bind h
  obtain ⟨_, hfloor, h⟩ := of_bind h
  cases h
  exact ⟨genuine_of_decodeAndVerify hverified, hfloor⟩

/-- The policy is signed by a root and the floor file holds its floor. -/
def Accepted (snapshot : VerifiedServiceTrustSnapshot) (s : Session P) : Prop :=
  Genuine snapshot ∧ s.disk.floorRecord = some (.fromVerified snapshot)

lemma cachedFallback_ensures (verification : CacheVerificationContext) (url : String)
    (readError : Option String) (prior : Option PersistedServiceTrustFloor)
    (observedAtMs : UInt64) (outcome : SaveOutcome) :
    Ensures (fun s => FilesOnly s₀ s ∧ s.disk.floorRecord = prior)
      (cachedFallback verification url readError prior observedAtMs outcome)
      (fun r s => FilesOnly s₀ s ∧ Accepted r.1 s) (fun _ => FilesOnly s₀) := by
  unfold cachedFallback
  refine .read fun s hs => ?_
  refine (check_ensures (A := fun s => FilesOnly s₀ s ∧ s.disk.floorRecord = prior)
    (fun _ _ h => h.1) _).bind (fun cached => ?_) s hs
  cases cached with
  | none => exact .throw fun s h => h.1.1
  | some cached =>
    intro s' hs'
    obtain ⟨hgenuine, hvalid⟩ := of_loadVerifiedCache hs'.2
    refine (saveChangedFloor_ensures outcome hvalid).bind (fun _ => ?_) s' hs'.1
    exact .pure fun s h => ⟨h.1, hgenuine, h.2⟩

/-- Where a start returns a policy, it has been accepted. -/
theorem acquireSnapshot_ensures (config : RemoteTrustConfig) (input : RemoteBootstrap) :
    Ensures (FilesOnly s₀) (acquireSnapshot config input)
      (fun r s => FilesOnly s₀ s ∧ Accepted r.1 s) (fun _ => FilesOnly s₀) := by
  unfold acquireSnapshot
  refine .read fun s hs => ?_
  refine (check_ensures (A := (· = s)) (E := fun _ => FilesOnly s₀) (fun _ _ h => h ▸ hs) _).bind
    (fun prior => ?_) s rfl
  rintro s ⟨rfl, hload⟩
  have hprior := floorRecord_of_loadFloor hload
  refine Ensures.read (P := fun s => FilesOnly s₀ s ∧ s.disk.floorRecord = prior)
    (fun s hs => ?_) s ⟨hs, hprior⟩
  dsimp only
  cases fetchRemoteSnapshot input.response _ with
  | error message => exact cachedFallback_ensures _ _ _ _ _ _ s hs
  | ok fetched =>
    cases fetched with
    | notModified etag =>
      refine (cachedFallback_ensures _ _ _ _ _ _).bind (fun cached => ?_) s hs
      exact .pure fun s h => h
    | snapshot bytes etag =>
      cases hserved : verifyServedSnapshot config input prior bytes with
      | error message =>
        simp only [hserved]
        exact cachedFallback_ensures _ _ _ _ _ _ s hs
      | ok verified =>
        obtain ⟨hgenuine, hvalid⟩ := of_verifyServedSnapshot hserved
        simp only [hserved]
        refine (persistRemoteAcceptance_ensures _ _ _ _ _).bind (fun _ => ?_) s
          ⟨hs.1, hs.1.sound.candidate hs.2 hvalid⟩
        exact .pure fun s h => ⟨h.1, hgenuine, h.2⟩

end Saves

end Files

end InferLab.Receiver
