import InferLab.Gateway.Safety

/-!
# Gateway: a lifetime

From the start to the end of a gateway the log is lawful. While the gateway runs, the configuration
in its memory and in its file is the one that was applied last.
-/

namespace InferLab.Gateway

open ServiceAuth ControlAuth Wire Attempt Option Except

section Lifetimes

variable {P : Type} [Ed25519] [Base64] [PrettyJson PersistedRoutingSnapshot]
  (config : WatcherConfig P) (file : SnapshotFile)

/-- The file holds the configuration: it was written for it, or it was there from the start. -/
def FileHolds (current : SnapshotFile) (committed : CommittedRoutingConfiguration) : Prop :=
  (∃ savedAtMs, current = .ok (PrettyJson.toVecPretty
      (⟨routingSnapshotSchema, savedAtMs, committed⟩ : PersistedRoutingSnapshot) ++ [10])) ∨
    current = file ∧ ∃ snapshot key, DiskSnapshot config.toGatewayConfig file snapshot key ∧
      snapshot.committed = committed

/-- A gateway that runs: its log is lawful, and what it has in memory and in its file is what was
applied last. -/
structure InForce (s : Session (Process P)) : Prop where
  lawful : Lawful config.toGatewayConfig file s.log
  last : (appliedEvents s.log).getLast? =
    some (s.process.appliedConfiguration, s.process.routing.controlSigningKeyId)
  routing : ∃ pool, s.process.routing = .committedAuthenticated pool
    s.process.appliedConfiguration s.process.routing.controlSigningKeyId
  renewals : ∀ lease, s.process.routingLease = some lease →
    lease.renewals.toNat = min (renewals s.log) u64Max
  file : config.snapshotStore.isSome → FileHolds config file s.file s.process.appliedConfiguration

variable {config file} {s : Session (Process P)} {verified : VerifiedControlConfiguration}

section

variable (h : InForce config file s)
include h

lemma InForce.revision :
    s.process.routing.controlRevision.getD 0 = s.process.appliedConfiguration.revision := by
  obtain ⟨pool, hrouting⟩ := h.routing
  rw [hrouting]
  rfl

/-- The configuration in force has passed the checks. -/
theorem InForce.safe : AppliedSafe config.toGatewayConfig
    (s.process.appliedConfiguration, s.process.routing.controlSigningKeyId) := by
  obtain ⟨before, after, hlog, -⟩ := exists_last_applied h.last
  exact (h.lawful before _ after hlog).1

/-- What is accepted may be applied after everything that was. -/
theorem InForce.notBelow (haccepted : Accepted config s.process verified) :
    NotBelow config.authenticator
      (s.process.appliedConfiguration, s.process.routing.controlSigningKeyId)
      (verified.committed, verified.signingKeyId) where
  revision := h.revision ▸ haccepted.revision
  payload heq := sameRoutingPayload_comm (haccepted.payload (h.revision ▸ heq.symm))
  preference := preferenceKept_of_keyTransition haccepted.transition

/-- An answer that is accepted without being a change for the better has the key in force. -/
theorem InForce.key_eq (haccepted : Accepted config s.process verified)
    (hverify : config.authenticator.verify verified.committed = .ok verified.signingKeyId)
    (hupgrade : config.authenticator.keyTransition s.process.routing.controlSigningKeyId
        verified.signingKeyId = .upgrade →
      verified.signingKeyId = s.process.routing.controlSigningKeyId) :
    verified.signingKeyId = s.process.routing.controlSigningKeyId := by
  have hcurrent := h.safe.authenticated
  have htransition := haccepted.transition
  cases hauthenticator : config.authenticator with
  | disabled =>
    -- without signatures there are no keys
    rw [hauthenticator] at hverify hcurrent
    exact (ok.inj hverify).symm.trans (ok.inj hcurrent)
  | required keys =>
    rw [hauthenticator] at htransition hupgrade
    exact eq_of_keyTransition htransition hupgrade

lemma InForce.renew (input : WatchInput)
    (hkey : verified.signingKeyId = s.process.routing.controlSigningKeyId)
    (hsame : sameRoutingPayload verified.committed s.process.appliedConfiguration = true) :
    InForce config file (renewLease verified input s) := by
  unfold renewLease
  cases hlease : s.process.routingLease with
  | none => exact h
  | some lease =>
    have hlast : (appliedEvents s.log).getLast? =
        some (s.process.appliedConfiguration, verified.signingKeyId) := hkey ▸ h.last
    refine ⟨h.lawful.snoc ⟨_, hlast, hsame⟩, ?_, h.routing, fun found hfound => ?_, h.file⟩
    · show (appliedEvents (s.log ++ _)).getLast? = _
      rw [appliedEvents_append, appliedEvents_renewed, List.append_nil]
      exact h.last
    · obtain rfl := some.inj hfound
      have hrenewals := h.renewals lease hlease
      show (UInt64.ofNat (saturatingAdd u64Max lease.renewals.toNat 1)).toNat =
        min (Gateway.renewals (s.log ++ [_])) u64Max
      rw [renewals_append, UInt64.toNat_ofNat', hrenewals]
      have hone : Gateway.renewals [.renewed verified.committed verified.signingKeyId] = 1 := rfl
      rw [hone]
      unfold saturatingAdd u64Max
      omega

end

omit [Ed25519] [Base64] in
/-- A write that fails leaves the session as it is. -/
theorem persist_cases {Q : Type} (committed : CommittedRoutingConfiguration)
    (outcome : SaveOutcome) (s : Session Q) :
    (∃ error, persist committed outcome s = .error error s) ∨
    persist committed outcome s = .ok () { s with
      file := .ok (PrettyJson.toVecPretty
        (⟨routingSnapshotSchema, outcome.savedAtMs, committed⟩ : PersistedRoutingSnapshot) ++ [10])
      log := s.log ++ [.saved committed] } := by
  simp only [persist, get_bind_apply, saveSnapshot]
  cases hencoded : encodeSnapshot
      (⟨routingSnapshotSchema, outcome.savedAtMs, committed⟩ : PersistedRoutingSnapshot) with
  | error error => exact .inl ⟨error, rfl⟩
  | ok bytes =>
    cases hfailure : outcome.failure with
    | some error => exact .inl ⟨error, rfl⟩
    | none =>
      obtain ⟨_, _, hencoded⟩ := of_bind hencoded
      obtain ⟨_, _, hencoded⟩ := of_bind hencoded
      rw [← ok.inj hencoded]
      exact .inr rfl

/-- What a turn leaves that does not go on. -/
def Halted (config : WatcherConfig P) (file : SnapshotFile) (s : Session (Process P)) :
    Stop → Session (Process P) → Prop
  | .rejected _, s' => s' = s
  | .ended, s' => Lawful config.toGatewayConfig file s'.log

/-- What a save adds to the session. -/
structure SavedFor (config : WatcherConfig P) (file : SnapshotFile) (s : Session (Process P))
    (committed : CommittedRoutingConfiguration) (s' : Session (Process P)) : Prop where
  process : s'.process = s.process
  applied : appliedEvents s'.log = appliedEvents s.log
  renewals : renewals s'.log = renewals s.log
  lawful : Lawful config.toGatewayConfig file s'.log
  saved : config.snapshotStore.isSome →
    s'.log.getLast? = some (.saved committed) ∧ FileHolds config file s'.file committed

lemma saveResponse_ensures (h : Lawful config.toGatewayConfig file s.log) (input : WatchInput) :
    Ensures (· = s) (saveResponse config verified input)
      (fun _ => SavedFor config file s verified.committed) (Halted config file s) := by
  unfold saveResponse
  by_cases hstore : config.snapshotStore.isSome = true
  · rw [if_pos hstore]
    refine .read fun s' hs' => ?_
    subst hs'
    rcases persist_cases verified.committed input.save s' with ⟨error, herror⟩ | hok
    · simp only [herror]
      exact rfl
    · simp only [hok]
      refine ⟨rfl, ?_, ?_, h.snoc trivial, fun _ => ⟨List.getLast?_concat, .inl ⟨_, rfl⟩⟩⟩
      · exact (appliedEvents_append _ _).trans (List.append_nil _)
      · exact renewals_append _ _
  · rw [if_neg hstore]
    refine .pure fun s' hs' => ?_
    subst hs'
    exact ⟨rfl, rfl, rfl, h, fun hsome => absurd hsome hstore⟩

/-- What is accepted is applied after the save. -/
theorem InForce.apply (h : InForce config file s) (haccepted : Accepted config s.process verified)
    (hsafe : AppliedSafe config.toGatewayConfig (verified.committed, verified.signingKeyId))
    {s' : Session (Process P)} (hsaved : SavedFor config file s verified.committed s') (pool : P) :
    InForce config file { s' with
      process := { s'.process with
        routing := .committedAuthenticated pool verified.committed verified.signingKeyId
        appliedConfiguration := verified.committed }
      log := s'.log ++ [.applied verified.committed verified.signingKeyId] } := by
  have hbelow := h.notBelow haccepted
  obtain ⟨hearlier, hdisk⟩ := h.lawful.notBelow_last h.last
  refine ⟨hsaved.lawful.snoc ⟨hsafe, fun earlier hmem => ?_, fun snapshot diskKey hsnapshot => ?_,
    fun hstore => .inl (hsaved.saved hstore).1⟩, ?_, ⟨pool, rfl⟩, fun lease hlease => ?_,
    fun hstore => (hsaved.saved hstore).2⟩
  · rw [hsaved.applied] at hmem
    exact (hearlier earlier hmem).trans hbelow
  · exact (hdisk snapshot diskKey hsnapshot).trans hbelow
  · show (appliedEvents (s'.log ++ _)).getLast? = _
    rw [appliedEvents_append, appliedEvents_applied, List.getLast?_concat]
    rfl
  · show lease.renewals.toNat = min (Gateway.renewals (s'.log ++ [_])) u64Max
    rw [renewals_append, hsaved.renewals]
    exact h.renewals lease (hsaved.process ▸ hlease)

lemma applyResponse_ensures (h : InForce config file s)
    (haccepted : Accepted config s.process verified)
    (hsafe : AppliedSafe config.toGatewayConfig (verified.committed, verified.signingKeyId))
    (pool : P) (input : WatchInput) :
    Ensures (· = s) (applyResponse config verified pool input)
      (fun _ s' => InForce config file s' ∧
        verified.signingKeyId = s'.process.routing.controlSigningKeyId ∧
        sameRoutingPayload verified.committed s'.process.appliedConfiguration = true)
      (Halted config file s) := by
  refine .bind (saveResponse_ensures h.lawful input) fun _ => ?_
  refine .ite (fun _ => ?_) fun _ => ?_
  · exact .throw fun s' hs' => hs'.lawful
  · refine .update fun s' hs' => ⟨h.apply haccepted hsafe hs' pool, rfl, ?_⟩
    exact sameRoutingPayload_iff.mpr ⟨rfl, rfl, rfl, rfl⟩

/-- A turn keeps what is in force, and an answer that is rejected changes nothing. -/
theorem watchControlPlane_ensures (h : InForce config file s) (input : WatchInput) :
    Ensures (· = s) (watchControlPlane config input) (fun _ => InForce config file)
      (Halted config file s) := by
  unfold watchControlPlane
  cases hfetched : (fetchControlConfiguration config.toGatewayConfig
      input.responses).configuration with
  | none =>
    simp only [hfetched]
    exact .throw fun s' hs' => hs'
  | some verified =>
    obtain ⟨hverify, hcluster⟩ := of_fetchControlConfiguration hfetched
    simp only [hfetched]
    refine .read fun s' hs' => ?_
    subst hs'
    cases hjudged : judgeResponse config s'.process verified with
    | error error => exact rfl
    | ok result =>
      obtain ⟨haccepted, hunchanged⟩ := of_judgeResponse hjudged
      cases result with
      | none =>
        obtain ⟨hrevision, hkey⟩ := hunchanged rfl
        exact h.renew input (h.key_eq haccepted hverify hkey) (haccepted.payload hrevision)
      | some pool =>
        refine Ensures.bind (applyResponse_ensures h haccepted
          ⟨hverify, hcluster, haccepted.valid⟩ pool input) (fun _ => ?_) s' rfl
        exact Ensures.update fun s'' hs'' => hs''.1.renew input hs''.2.1 hs''.2.2

/-! ## The start -/

omit [Ed25519] [Base64] [PrettyJson PersistedRoutingSnapshot] in
lemma liftExcept_ensures {σ α : Type} {I : σ → Prop} (x : Except IoError α) :
    Ensures I (liftExcept x) (fun a s => I s ∧ x = .ok a) (fun _ => I) := by
  intro s hs
  cases x with
  | ok a => exact ⟨hs, rfl⟩
  | error error => exact hs

variable {initial : InitialControlConfiguration}

omit [Ed25519] [Base64] [PrettyJson PersistedRoutingSnapshot] in
lemma renewals_of_initialLease {input : StartInput} {lease : RoutingLeaseGuard}
    (h : initialLease config initial input = .ok (some lease)) : lease.renewals = 0 := by
  unfold initialLease at h
  cases hlease : config.routingLease with
  | none => simp [hlease, pure, Except.pure] at h
  | some settings =>
    simp only [hlease] at h
    cases hsource : initial.bootstrapSource with
    | live =>
      simp only [hsource] at h
      rw [← some.inj (ok.inj h)]
      rfl
    | disk =>
      simp only [hsource] at h
      cases hpersisted : initial.persistedAtMs with
      | none => simp [hpersisted, throw, throwThe, MonadExceptOf.throw] at h
      | some persistedAtMs =>
        cases hage : initial.bootstrapSnapshotAgeMs with
        | none => simp [hpersisted, hage, throw, throwThe, MonadExceptOf.throw] at h
        | some observedAgeMs =>
          simp only [hpersisted, hage] at h
          rw [← some.inj (ok.inj h)]
          rfl

variable (config file) in
/-- A gateway that is about to apply its first configuration. -/
structure Prepared (initial : InitialControlConfiguration) (s : Session Unit) : Prop where
  applied : appliedEvents s.log = []
  renewals : renewals s.log = 0
  lawful : Lawful config.toGatewayConfig file s.log
  saved : config.snapshotStore.isSome →
    (s.log.getLast? = some (.saved initial.committed) ∨
      ∃ snapshot key, DiskSnapshot config.toGatewayConfig file snapshot key ∧
        snapshot.committed = initial.committed) ∧
    FileHolds config file s.file initial.committed

lemma Prepared.start {s : Session Unit} (h : Prepared config file initial s)
    (hinitial : Initial config.toGatewayConfig file initial) (pool : P)
    {lease : Option RoutingLeaseGuard} (hlease : ∀ guard, lease = some guard → guard.renewals = 0) :
    InForce config file ⟨s.file,
      ⟨.committedAuthenticated pool initial.committed initial.verifiedSigningKeyId,
        initial.committed, lease⟩,
      s.log ++ [.applied initial.committed initial.verifiedSigningKeyId]⟩ where
  lawful := by
    refine h.lawful.snoc ⟨hinitial.safe, fun earlier hmem => ?_, hinitial.notBelow,
      fun hstore => (h.saved hstore).1⟩
    rw [h.applied] at hmem
    exact absurd hmem (List.not_mem_nil)
  last := by
    rw [appliedEvents_append, h.applied]
    rfl
  routing := ⟨pool, rfl⟩
  renewals guard hguard := by
    rw [renewals_append, h.renewals, hlease guard hguard]
    rfl
  file hstore := (h.saved hstore).2

lemma saveInitial_ensures (hinitial : Initial config.toGatewayConfig file initial)
    (input : StartInput) :
    Ensures (· = ⟨file, (), []⟩) (saveInitial config initial input)
      (fun _ => Prepared config file initial) (fun _ s => Lawful config.toGatewayConfig file s.log)
    := by
  unfold saveInitial
  refine .ite (fun _ => ?_) fun hnot => ?_
  · rintro _ rfl
    rcases persist_cases initial.committed input.save (⟨file, (), []⟩ : Session Unit) with
      ⟨error, herror⟩ | hok
    · rw [herror]
      exact lawful_nil
    · rw [hok]
      exact ⟨rfl, rfl, lawful_nil.snoc trivial, fun _ => ⟨.inl rfl, .inl ⟨_, rfl⟩⟩⟩
  · -- nothing is written: there is no file, or the configuration is from it
    refine .pure ?_
    rintro _ rfl
    refine ⟨rfl, rfl, lawful_nil, fun hstore => ?_⟩
    rcases hinitial.source with hlive | hdisk
    · exact absurd ⟨hlive, hstore⟩ hnot
    · exact ⟨.inr hdisk, .inr ⟨rfl, hdisk⟩⟩

lemma applyInitial_ensures (hinitial : Initial config.toGatewayConfig file initial) (pool : P)
    (input : StartInput) :
    Ensures (Prepared config file initial) (applyInitial config initial pool input)
      (fun process s => InForce config file ⟨s.file, process, s.log⟩)
      (fun _ s => Lawful config.toGatewayConfig file s.log) := by
  refine .bind (.update (Q := fun _ s => ∀ lease : Option RoutingLeaseGuard,
    (∀ guard, lease = some guard → guard.renewals = 0) → InForce config file ⟨s.file,
      ⟨.committedAuthenticated pool initial.committed initial.verifiedSigningKeyId,
        initial.committed, lease⟩, s.log⟩) ?_) fun _ => ?_
  · intro s hs lease hlease
    exact hs.start hinitial pool hlease
  refine .bind ((liftExcept_ensures _).imp (fun _ => id) (fun _ _ => id) ?_) fun lease => ?_
  · intro error s hs
    exact (hs none nofun).lawful
  · refine .pure ?_
    rintro s ⟨hs, hlease⟩
    refine hs lease fun guard hguard => ?_
    rw [hguard] at hlease
    exact renewals_of_initialLease hlease

lemma startGateway_ensures (input : StartInput) :
    Ensures (· = ⟨file, (), []⟩) (startGateway config input)
      (fun process s => InForce config file ⟨s.file, process, s.log⟩)
      (fun _ s => Lawful config.toGatewayConfig file s.log) := by
  unfold startGateway
  refine .read fun s hs => ?_
  subst hs
  refine Ensures.bind (P := (· = ⟨file, (), []⟩))
    ((liftExcept_ensures _).imp (fun _ => id) (fun _ _ => id) ?_) (fun initial => ?_) _ rfl
  · rintro error _ rfl
    exact lawful_nil
  refine .bind ((liftExcept_ensures _).imp (fun _ => id) (fun _ _ => id) ?_) fun pool => ?_
  · rintro error _ ⟨rfl, -⟩
    exact lawful_nil
  rintro s ⟨⟨hs, hbootstrap⟩, -⟩
  have hinitial := of_bootstrapControlConfiguration hbootstrap
  exact Ensures.bind (saveInitial_ensures hinitial input)
    (fun _ => applyInitial_ensures hinitial pool input) s hs

/-! ## Whole lifetimes -/

variable (config file) in
/-- What is so at every moment of a lifetime. -/
def LifetimeSafe (w : Lifetime P) : Prop :=
  Lawful config.toGatewayConfig file w.log ∧
    match w.process with
    | .before => w.file = file ∧ w.log = []
    | .running process => InForce config file ⟨w.file, process, w.log⟩
    | .ended => True

/-- Every event of a lifetime keeps it safe. -/
theorem LifetimeSafe.act {w w' : Lifetime P} (h : LifetimeSafe config file w)
    {action : GatewayAction} (hact : w.act config action = some w') :
    LifetimeSafe config file w' := by
  obtain ⟨hlawful, hphase⟩ := h
  obtain ⟨current, phase, log⟩ := w
  cases action with
  | stop =>
    obtain rfl := some.inj hact
    exact ⟨hlawful, trivial⟩
  | start input =>
    cases phase with
    | running process => cases hact
    | ended => cases hact
    | before =>
      obtain ⟨rfl, rfl⟩ := hphase
      have hstart : Ends (fun process s => InForce config current ⟨s.file, process, s.log⟩)
          (fun _ s => Lawful config.toGatewayConfig current s.log)
          (startGateway config input ⟨current, (), []⟩) := startGateway_ensures input _ rfl
      simp only [Lifetime.act] at hact
      cases hrun : startGateway config input ⟨current, (), []⟩ with
      | ok process s =>
        rw [hrun] at hstart hact
        obtain rfl := some.inj hact
        exact ⟨hstart.lawful, hstart⟩
      | error error s =>
        rw [hrun] at hstart hact
        obtain rfl := some.inj hact
        exact ⟨hstart, trivial⟩
  | watch input =>
    cases phase with
    | before => cases hact
    | ended => cases hact
    | running process =>
      have hturn := watchControlPlane_ensures hphase input ⟨current, process, log⟩ rfl
      simp only [Lifetime.act] at hact
      cases hrun : watchControlPlane config input ⟨current, process, log⟩ with
      | ok _ s =>
        rw [hrun] at hturn hact
        obtain rfl := some.inj hact
        exact ⟨hturn.lawful, hturn⟩
      | error stop s =>
        rw [hrun] at hturn hact
        cases stop with
        | ended =>
          obtain rfl := some.inj hact
          exact ⟨hturn, trivial⟩
        | rejected error =>
          obtain rfl : s = ⟨current, process, log⟩ := hturn
          obtain rfl := some.inj hact
          exact ⟨hlawful, hphase⟩

/-- At every moment of every lifetime the log is lawful, a gateway that runs has in force what was
applied last, and an answer that it rejects would change nothing. -/
theorem gateway_configuration_safety {w : Lifetime P}
    (h : (gatewaySystem config file).Reachable w) :
    Lawful config.toGatewayConfig file w.log ∧
      ∀ process, w.process = .running process →
        InForce config file ⟨w.file, process, w.log⟩ ∧
        ∀ input error s, watchControlPlane config input ⟨w.file, process, w.log⟩ =
          .error (.rejected error) s → s = ⟨w.file, process, w.log⟩ := by
  have hsafe : LifetimeSafe config file w := by
    refine h.invariant (I := LifetimeSafe config file) ?_ fun w w' hw hstep => ?_
    · rintro _ rfl
      exact ⟨lawful_nil, rfl, rfl⟩
    · obtain ⟨action, hact⟩ := hstep
      exact hw.act hact
  refine ⟨hsafe.1, fun process hprocess => ?_⟩
  have hforce : InForce config file ⟨w.file, process, w.log⟩ := by
    have hphase := hsafe.2
    rwa [hprocess] at hphase
  refine ⟨hforce, fun input error s hrun => ?_⟩
  have hturn := watchControlPlane_ensures hforce input _ rfl
  rw [hrun] at hturn
  exact hturn

end Lifetimes

/-! ## A lifetime of the sample -/

section Sample

/-- The configuration of the second revision that the key has signed. -/
def nextCommitted : CommittedRoutingConfiguration :=
  sampleCommitted "w" 2 (some ⟨authenticationSchema, ControlAuth.signatureAlgorithm, "k",
    "AAIgPKEUMZX5M6FnE++kmgEoorMzZN7gNBC6/rL6r5syqEJnUBYtgsbok8tRPyRkRvHBh/CuDh8hEtLJC2wtMA=="⟩)

def sampleWatcher : WatcherConfig (List StoredWorkerConfiguration) where
  toGatewayConfig := sampleConfig
  routingLease := some 1000
  buildPool workers _ := .ok workers

/-- A turn with one answer. -/
def sampleTurn (committed : CommittedRoutingConfiguration) : GatewayAction :=
  .watch ⟨[⟨"http://control", some committed⟩], ⟨7, none⟩, false, 8, 9⟩

/-- The gateway starts with the first revision, and then gets the second, the second again and the
first. -/
def sampleActions : List GatewayAction :=
  [.start ⟨sampleRounds, 5, ⟨5, none⟩, 6, 6⟩, sampleTurn nextCommitted, sampleTurn nextCommitted,
    sampleTurn signedCommitted]

def sampleLog : List Event :=
  [.saved signedCommitted, .applied signedCommitted (some "k"), .saved nextCommitted,
    .applied nextCommitted (some "k"), .renewed nextCommitted (some "k"),
    .renewed nextCommitted (some "k")]

/-- The configuration in force. -/
def Lifetime.inForce {P : Type} (w : Lifetime P) : Option CommittedRoutingConfiguration :=
  match w.process with
  | .running process => some process.appliedConfiguration
  | _ => none

@[reducible]
def sampleGateway : System (Lifetime (List StoredWorkerConfiguration)) :=
  @gatewaySystem _ checksumEd25519 standardBase64 persistedCodec.prettyJson sampleWatcher
    missingFile

lemma exists_sampleLifetime : ∃ w process, sampleGateway.Reachable w ∧ w.log = sampleLog ∧
    w.process = .running process ∧ process.appliedConfiguration = nextCommitted := by
  let step := @Lifetime.act _ checksumEd25519 standardBase64 persistedCodec.prettyJson sampleWatcher
  have hrun : (sampleActions.foldlM step ⟨missingFile, .before, []⟩).map
      (fun w => (w.log, w.inForce)) = some (sampleLog, some nextCommitted) := by
    decide +kernel
  obtain ⟨w, hw, hpair⟩ := map_eq_some_iff.mp hrun
  obtain ⟨hlog, hforce⟩ := Prod.mk.inj hpair
  unfold Lifetime.inForce at hforce
  cases hprocess : w.process with
  | before => simp [hprocess] at hforce
  | ended => simp [hprocess] at hforce
  | running process =>
    rw [hprocess] at hforce
    refine ⟨w, process, ⟨_, rfl, ?_⟩, hlog, hprocess, some.inj hforce⟩
    exact System.Steps.of_actions (fun s action s' h => ⟨action, h⟩) hw

theorem gateway_configuration_safety_renewed : ∃ w process, sampleGateway.Reachable w ∧
    w.log = sampleLog ∧ w.process = .running process ∧
    @InForce _ checksumEd25519 standardBase64 persistedCodec.prettyJson sampleWatcher missingFile
      ⟨w.file, process, w.log⟩ := by
  obtain ⟨w, process, hreachable, hlog, hprocess, -⟩ := exists_sampleLifetime
  have hsafe := (@gateway_configuration_safety _ checksumEd25519 standardBase64
    persistedCodec.prettyJson sampleWatcher missingFile w hreachable).2 process hprocess
  exact ⟨w, process, hreachable, hlog, hprocess, hsafe.1⟩

end Sample

end InferLab.Gateway
