import InferLab.Gateway.SnapshotStore
import InferLab.ServiceAuth.Codecs

/-!
# Gateway: where the first configuration comes from

A gateway starts from what the control plane answers, or from its file. It never starts below an
authenticated configuration in the file, neither in the revision nor in the preference of the
signing key.
-/

namespace InferLab.Gateway

open ServiceAuth ControlAuth Wire

/-! ## Authentication -/

/-- Whether configurations must be signed. -/
inductive ControlAuthenticator
  | disabled
  | required (keys : TrustedKeyRing)
deriving Repr, DecidableEq

/-- How the key of a configuration relates to the last. -/
inductive SigningKeyTransition
  | disabled
  | same
  | upgrade
  | downgrade
deriving Repr, DecidableEq

def routingPayload (committed : CommittedRoutingConfiguration) : RoutingPayload where
  clusterId := committed.clusterId
  revision := committed.revision
  term := committed.term
  routingPolicy := committed.configuration.routingPolicy
  workers := committed.configuration.workers.map fun worker =>
    ⟨worker.id, worker.baseUrl, worker.weight⟩

namespace ControlAuthenticator

def isRequired : ControlAuthenticator → Bool
  | disabled => false
  | required _ => true

/-- The key that has signed a configuration, if signatures are required. -/
def verify [Ed25519] [Base64] (authenticator : ControlAuthenticator)
    (committed : CommittedRoutingConfiguration) : Except IoError (Option String) :=
  match authenticator with
  | disabled => .ok none
  | required keys => do
    let some authentication := committed.authentication
      | throw (.invalidData
          "control configuration is unsigned but signature verification is required")
    (keys.verify (routingPayload committed) authentication).mapError .invalidData
    pure (some authentication.keyId)

def keyTransition (authenticator : ControlAuthenticator)
    (currentKeyId observedKeyId : Option String) : SigningKeyTransition :=
  match authenticator, observedKeyId, currentKeyId with
  | disabled, _, _ => .disabled
  | required _, none, _ => .downgrade
  | required _, some _, none => .upgrade
  | required keys, some observed, some current =>
    if observed = current then .same
    else match keys.keyPreference current, keys.keyPreference observed with
      | some currentPreference, some observedPreference =>
        if currentPreference < observedPreference then .upgrade else .downgrade
      | _, _ => .downgrade

end ControlAuthenticator

def sameRoutingPayload (left right : CommittedRoutingConfiguration) : Bool :=
  left.clusterId == right.clusterId && left.revision == right.revision &&
    left.term == right.term && left.configuration == right.configuration

/-! ## Answers of the control plane -/

/-- What a gateway's start needs. -/
structure GatewayConfig where
  expectedClusterId : String
  authenticator : ControlAuthenticator
  /-- The path of the file, if there is one. -/
  snapshotStore : Option String
  freshnessPolicy : SnapshotFreshnessPolicy
  /-- In milliseconds. -/
  maximumWait : ℕ
deriving Repr, DecidableEq

/-- What a node answers, if it is a configuration. -/
structure ControlResponse where
  sourceUrl : String
  configuration : Option CommittedRoutingConfiguration
deriving Repr, DecidableEq

/-- A source that serves another cluster. -/
structure ClusterMismatch where
  sourceUrl : String
  clusterId : String
deriving Repr, DecidableEq

/-- A source whose signature does not hold. -/
structure AuthenticationFailure where
  sourceUrl : String
  keyId : Option String
  error : String
deriving Repr, DecidableEq

/-- A configuration that passed the checks. -/
structure VerifiedControlConfiguration where
  sourceUrl : String
  committed : CommittedRoutingConfiguration
  signingKeyId : Option String
deriving Repr, DecidableEq

/-- What a round of fetches gives. -/
structure ControlFetchResult where
  configuration : Option VerifiedControlConfiguration
  mismatches : List ClusterMismatch
  authenticationFailures : List AuthenticationFailure
deriving Repr, DecidableEq

/-- Where the first configuration comes from. -/
inductive BootstrapSource
  | live
  | disk
deriving Repr, DecidableEq

/-- The configuration that a start takes. -/
structure InitialControlConfiguration where
  sourceUrl : Option String
  committed : CommittedRoutingConfiguration
  verifiedSigningKeyId : Option String
  bootstrapSource : BootstrapSource
  bootstrapSnapshotAgeMs : Option UInt64
  persistedAtMs : Option UInt64
  persistedExpiresAtMs : Option UInt64
deriving Repr, DecidableEq

section Bootstrap

variable [Ed25519] [Base64] (config : GatewayConfig)

/-- The first answer that is authenticated and from the expected cluster. -/
def fetchControlConfiguration (responses : List ControlResponse) : ControlFetchResult :=
  loop [] [] responses
where
  loop (mismatches : List ClusterMismatch) (failures : List AuthenticationFailure) :
      List ControlResponse → ControlFetchResult
    | [] => ⟨none, mismatches, failures⟩
    | response :: responses =>
      match response.configuration with
      | none => loop mismatches failures responses
      | some configuration =>
        match config.authenticator.verify configuration with
        | .error error =>
          let failure := ⟨response.sourceUrl, configuration.authentication.map (·.keyId),
            error.message⟩
          loop mismatches (failures ++ [failure]) responses
        | .ok signingKeyId =>
          if configuration.clusterId = config.expectedClusterId then
            ⟨some ⟨response.sourceUrl, configuration, signingKeyId⟩, mismatches, failures⟩
          else
            let mismatch := ⟨response.sourceUrl, configuration.clusterId⟩
            loop (mismatches ++ [mismatch]) failures responses

/-- The error of a control plane that has not answered in time. -/
def noAnswer (mismatch : Option ClusterMismatch) (failure : Option AuthenticationFailure) :
    IoError :=
  let mismatch := mismatch.elim "" fun observed =>
    s!"; rejected cluster '{observed.clusterId}' from {observed.sourceUrl} while expecting " ++
      s!"'{config.expectedClusterId}'"
  let authentication := failure.elim "" fun failure =>
    s!"; rejected control authentication from {failure.sourceUrl}" ++
      failure.keyId.elim "" (fun keyId => s!" using key '{keyId}'") ++ s!": {failure.error}"
  ⟨.timedOut, "no authenticated committed configuration for control cluster " ++
    s!"'{config.expectedClusterId}' became available within {config.maximumWait} ms" ++
    authentication ++ mismatch⟩

/-- The rounds of answers until the time is over. -/
def waitForControlConfiguration (rounds : List (List ControlResponse)) :
    Except IoError VerifiedControlConfiguration :=
  loop none none rounds
where
  loop (mismatch : Option ClusterMismatch) (failure : Option AuthenticationFailure) :
      List (List ControlResponse) → Except IoError VerifiedControlConfiguration
    | [] => .error (noAnswer config mismatch failure)
    | responses :: rounds =>
      let fetched := fetchControlConfiguration config responses
      match fetched.configuration with
      | some configuration => .ok configuration
      | none => loop (fetched.mismatches.getLast?.or mismatch)
          (fetched.authenticationFailures.getLast?.or failure) rounds

/-! ## The first configuration -/

def snapshotFreshness (snapshot : PersistedRoutingSnapshot) (nowMs : UInt64) :
    Except IoError SnapshotFreshness :=
  validateSnapshotFreshness snapshot.savedAtMs nowMs config.freshnessPolicy

def initialFromDisk (snapshot : PersistedRoutingSnapshot) (freshness : SnapshotFreshness)
    (verifiedSigningKeyId : Option String) : InitialControlConfiguration where
  sourceUrl := none
  committed := snapshot.committed
  verifiedSigningKeyId := verifiedSigningKeyId
  bootstrapSource := .disk
  bootstrapSnapshotAgeMs := some freshness.observedAgeMs
  persistedAtMs := some snapshot.savedAtMs
  persistedExpiresAtMs := freshness.expiresAtMs

def initialFromLive (live : VerifiedControlConfiguration) : InitialControlConfiguration where
  sourceUrl := some live.sourceUrl
  committed := live.committed
  verifiedSigningKeyId := live.signingKeyId
  bootstrapSource := .live
  bootstrapSnapshotAgeMs := none
  persistedAtMs := none
  persistedExpiresAtMs := none

/-- A start without the control plane; `loaded` is what the file has given. -/
def bootstrapFromDisk (loaded : Option (Except String PersistedRoutingSnapshot))
    (liveError : IoError) (nowMs : UInt64) : Except IoError InitialControlConfiguration :=
  let notEligible (error : IoError) : IoError := ⟨error.kind,
    s!"control-plane bootstrap failed ({liveError.message}); durable routing snapshot is not " ++
      s!"eligible for fallback: {error.message}"⟩
  match loaded with
  | some (.ok snapshot) => do
    let signingKeyId ← (config.authenticator.verify snapshot.committed).mapError fun error =>
      notEligible { error with message := s!"control authentication failed: {error.message}" }
    (validateExpectedControlCluster snapshot.committed config.expectedClusterId).mapError
      notEligible
    let freshness ← (snapshotFreshness config snapshot nowMs).mapError notEligible
    pure (initialFromDisk snapshot freshness signingKeyId)
  | loaded =>
    let snapshotError := match loaded with
      | some (.error error) => s!" ({error})"
      | _ => ""
    .error ⟨liveError.kind, s!"control-plane bootstrap failed ({liveError.message}); no valid " ++
      s!"durable routing snapshot is available{snapshotError}"⟩

/-- What the file says against the answer of the control plane: a configuration to start from
instead, or an error. -/
def checkDiskSnapshot (snapshot : PersistedRoutingSnapshot) (live : VerifiedControlConfiguration)
    (nowMs : UInt64) : Except IoError (Option InitialControlConfiguration) :=
  let diskSigningKeyId := (config.authenticator.verify snapshot.committed).toOption
  let keyName (keyId : Option String) : String := keyId.getD "none"
  if diskSigningKeyId.isNone && config.authenticator.isRequired then .ok none
  else if snapshot.committed.clusterId ≠ config.expectedClusterId then .ok none
  else if config.authenticator.keyTransition diskSigningKeyId.join live.signingKeyId =
      .downgrade then do
    let freshness ← (snapshotFreshness config snapshot nowMs).mapError fun error => ⟨error.kind,
      s!"live control signing key '{keyName live.signingKeyId}' is lower priority than durable " ++
        s!"key '{keyName diskSigningKeyId.join}', but the durable snapshot is not eligible for " ++
        s!"fallback: {error.message}"⟩
    pure (some (initialFromDisk snapshot freshness diskSigningKeyId.join))
  else if live.committed.revision < snapshot.committed.revision then do
    let freshness ← (snapshotFreshness config snapshot nowMs).mapError fun error => ⟨error.kind,
      s!"live control revision {live.committed.revision} is older than durable revision " ++
        s!"{snapshot.committed.revision}, but the durable snapshot is not eligible for " ++
        s!"fallback: {error.message}"⟩
    pure (some (initialFromDisk snapshot freshness diskSigningKeyId.join))
  else .ok none

/-- `bootstrap_control_configuration`. The last comparison with the file is made for every
snapshot, also for one that is not authenticated. -/
def bootstrapControlConfiguration [PrettyJson PersistedRoutingSnapshot] (file : SnapshotFile)
    (rounds : List (List ControlResponse)) (nowMs : UInt64) :
    Except IoError InitialControlConfiguration :=
  let loaded := config.snapshotStore.map fun path =>
    (loadSnapshot path file).mapError fun error => s!"{path}: {error.message}"
  match waitForControlConfiguration config rounds with
  | .error error => bootstrapFromDisk config loaded error nowMs
  | .ok live =>
    match validateCommitted live.committed with
    | .error error => bootstrapFromDisk config loaded (.invalidData
        s!"live control plane returned invalid configuration: {error.message}") nowMs
    | .ok _ =>
      match loaded with
      | some (.ok snapshot) => do
        match ← checkDiskSnapshot config snapshot live nowMs with
        | some initial => pure initial
        | none =>
          require (!(snapshot.committed.clusterId == config.expectedClusterId &&
              snapshot.committed.revision == live.committed.revision &&
              !sameRoutingPayload snapshot.committed live.committed))
            (IoError.invalidData ("live control plane and durable snapshot disagree at routing " ++
              s!"revision {live.committed.revision}"))
          pure (initialFromLive live)
      | _ => pure (initialFromLive live)

/-! ## A file that is not authenticated -/

variable {config} [PrettyJson PersistedRoutingSnapshot]

variable (config) in
/-- The file cannot be loaded, or what it holds is not authenticated. -/
def Unauthenticated (file : SnapshotFile) : Prop :=
  ∀ path snapshot, config.snapshotStore = some path → loadSnapshot path file = .ok snapshot →
    ∀ keyId, config.authenticator.verify snapshot.committed ≠ .ok keyId

variable (config) in
/-- The file holds another configuration of the revision that the control plane has answered. -/
def Disputes (file : SnapshotFile) (live : CommittedRoutingConfiguration) : Prop :=
  ∃ path snapshot, config.snapshotStore = some path ∧ loadSnapshot path file = .ok snapshot ∧
    snapshot.committed.clusterId = config.expectedClusterId ∧
    snapshot.committed.revision = live.revision ∧
    sameRoutingPayload snapshot.committed live = false

/-- The error of a gateway whose file disputes the answer. -/
def disagreement (live : CommittedRoutingConfiguration) : IoError :=
  .invalidData ("live control plane and durable snapshot disagree at routing " ++
    s!"revision {live.revision}")

omit [PrettyJson PersistedRoutingSnapshot] in
lemma checkDiskSnapshot_of_unauthenticated {snapshot : PersistedRoutingSnapshot}
    (hrequired : config.authenticator.isRequired = true)
    (h : ∀ keyId, config.authenticator.verify snapshot.committed ≠ .ok keyId)
    (live : VerifiedControlConfiguration) (nowMs : UInt64) :
    checkDiskSnapshot config snapshot live nowMs = .ok none := by
  cases hverify : config.authenticator.verify snapshot.committed with
  | ok keyId => exact absurd hverify (h keyId)
  | error error => simp [checkDiskSnapshot, hverify, hrequired, Except.toOption]

open Classical in
/-- Which file the gateway has makes a difference in one way only: whether it disputes the
answer. -/
theorem bootstrap_of_unauthenticated {file : SnapshotFile} {rounds : List (List ControlResponse)}
    {live : VerifiedControlConfiguration} (hrequired : config.authenticator.isRequired = true)
    (hlive : waitForControlConfiguration config rounds = .ok live)
    (hvalid : validateCommitted live.committed = .ok ())
    (hfile : Unauthenticated config file) (nowMs : UInt64) :
    bootstrapControlConfiguration config file rounds nowMs =
      if Disputes config file live.committed then .error (disagreement live.committed)
      else .ok (initialFromLive live) := by
  unfold bootstrapControlConfiguration
  simp only [hlive, hvalid]
  cases hstore : config.snapshotStore with
  | none =>
    rw [if_neg (fun ⟨path, snapshot, hpath, _⟩ => by simp [hstore] at hpath)]
    rfl
  | some path =>
    cases hloaded : loadSnapshot path file with
    | error error =>
      have hnot : ¬ Disputes config file live.committed := by
        rintro ⟨path', snapshot, hpath, hload, -⟩
        obtain rfl := Option.some.inj (hstore.symm.trans hpath)
        exact absurd (hloaded.symm.trans hload) (by simp)
      simp only [Option.map_some, hloaded, Except.mapError]
      rw [if_neg hnot]
      rfl
    | ok snapshot =>
      simp only [Option.map_some, hloaded, Except.mapError,
        checkDiskSnapshot_of_unauthenticated hrequired (hfile path snapshot hstore hloaded)]
      by_cases hdisputes : Disputes config file live.committed
      · rw [if_pos hdisputes]
        obtain ⟨path', snapshot', hpath, hload, hcluster, hrevision, hsame⟩ := hdisputes
        obtain rfl := Option.some.inj (hstore.symm.trans hpath)
        obtain rfl := Except.ok.inj (hloaded.symm.trans hload)
        simp [hcluster, hrevision, hsame, require, disagreement, bind, Except.bind, throw,
          throwThe, MonadExceptOf.throw]
      · rw [if_neg hdisputes]
        have hagrees : (snapshot.committed.clusterId == config.expectedClusterId &&
            snapshot.committed.revision == live.committed.revision &&
            !sameRoutingPayload snapshot.committed live.committed) = false := by
          by_contra hnot
          simp only [Bool.not_eq_false, Bool.and_eq_true, beq_iff_eq, Bool.not_eq_true'] at hnot
          exact hdisputes ⟨path, snapshot, hstore, hloaded, hnot.1.1, hnot.1.2, hnot.2⟩
        simp [hagrees, require, bind, Except.bind, pure, Except.pure]

/-- With two files that are not authenticated the start is the same when both of them dispute the
answer of the control plane, or none. -/
theorem bootstrap_ignores_unauthenticated_file_iff {file file' : SnapshotFile}
    {rounds : List (List ControlResponse)} {live : VerifiedControlConfiguration}
    (hrequired : config.authenticator.isRequired = true)
    (hlive : waitForControlConfiguration config rounds = .ok live)
    (hvalid : validateCommitted live.committed = .ok ())
    (hfile : Unauthenticated config file) (hfile' : Unauthenticated config file')
    (nowMs nowMs' : UInt64) :
    bootstrapControlConfiguration config file rounds nowMs =
        bootstrapControlConfiguration config file' rounds nowMs' ↔
      (Disputes config file live.committed ↔ Disputes config file' live.committed) := by
  rw [bootstrap_of_unauthenticated hrequired hlive hvalid hfile,
    bootstrap_of_unauthenticated hrequired hlive hvalid hfile']
  by_cases h : Disputes config file live.committed <;>
    by_cases h' : Disputes config file' live.committed <;> simp [h, h']

end Bootstrap

/-! ## A gateway -/

section Sample

open Codec

def workerCodec : Codec StoredWorkerConfiguration :=
  (string.pair (string.pair u64)).map
    (fun w => (w.id, w.baseUrl, w.weight.toUInt64)) (fun (a, b, c) => ⟨a, b, c.toUInt32⟩)
    fun w => by simp

def authenticationCodec : Codec ControlAuthentication :=
  (string.pair (string.pair (string.pair string))).map
    (fun a => (a.schema, a.algorithm, a.keyId, a.signature)) (fun (a, b, c, d) => ⟨a, b, c, d⟩)
    fun _ => rfl

def committedCodec : Codec CommittedRoutingConfiguration :=
  (string.pair (u64.pair (u64.pair ((string.pair (list workerCodec)).pair
    (option authenticationCodec))))).map
    (fun c => (c.clusterId, c.revision, c.term,
      (c.configuration.routingPolicy, c.configuration.workers), c.authentication))
    (fun (a, b, c, (d, e), f) => ⟨a, b, c, ⟨d, e⟩, f⟩)
    fun _ => rfl

def persistedCodec : Codec PersistedRoutingSnapshot :=
  (string.pair (u64.pair committedCodec)).map
    (fun s => (s.schema, s.savedAtMs, s.committed)) (fun (a, b, c) => ⟨a, b, c⟩) fun _ => rfl

/-- One worker, with the name of the worker and the revision. -/
def sampleCommitted (worker : String) (revision : UInt64)
    (authentication : Option ControlAuthentication) : CommittedRoutingConfiguration :=
  ⟨"c", revision, 1, ⟨"rr", [⟨worker, "u", 1⟩]⟩, authentication⟩

/-- A configuration of the first revision that the key has signed. -/
def signedCommitted : CommittedRoutingConfiguration :=
  sampleCommitted "w" 1 (some ⟨authenticationSchema, ControlAuth.signatureAlgorithm, "k",
    "AAIgPKEUMZX5M6FnE++kmgEoorMzZN7gNBC6/rL6r5oQpFLOqEgeiQesj8fLuy2xm6SZpAMfu5lqL6Y9qXwNLw=="⟩)

def sampleConfig : GatewayConfig where
  expectedClusterId := "c"
  authenticator := .required ⟨[("k", ServiceAuth.rootSeed)], [("k", 0)], ["k"], []⟩
  snapshotStore := some "routing.json"
  freshnessPolicy := ⟨none, 1000⟩
  maximumWait := 3000

def sampleRounds : List (List ControlResponse) := [[⟨"http://control", some signedCommitted⟩]]

def sampleLive : VerifiedControlConfiguration := ⟨"http://control", signedCommitted, some "k"⟩

/-- The file was never written. -/
def missingFile : SnapshotFile := .error ⟨.notFound, "No such file or directory (os error 2)"⟩

/-- A configuration that nobody has signed, and a file with it. -/
def unsignedSnapshot (worker : String) (revision : UInt64) : PersistedRoutingSnapshot :=
  ⟨routingSnapshotSchema, 1, sampleCommitted worker revision none⟩

def unsignedFile (worker : String) (revision : UInt64) : SnapshotFile :=
  .ok (persistedCodec.put (unsignedSnapshot worker revision))

/-- The sample, started from a file. -/
@[reducible]
def sampleBootstrap (file : SnapshotFile) : Except IoError InitialControlConfiguration :=
  @bootstrapControlConfiguration checksumEd25519 standardBase64 sampleConfig
    persistedCodec.prettyJson file sampleRounds 5

@[reducible]
def SampleUnauthenticated (file : SnapshotFile) : Prop :=
  @Unauthenticated checksumEd25519 standardBase64 sampleConfig persistedCodec.prettyJson file

lemma sampleLive_eq : @waitForControlConfiguration checksumEd25519 standardBase64 sampleConfig
    sampleRounds = .ok sampleLive := by
  decide +kernel

lemma unauthenticated_missingFile : SampleUnauthenticated missingFile := by
  intro path snapshot _ hload
  cases hload

lemma unauthenticated_unsignedFile (worker : String) (revision : UInt64) :
    SampleUnauthenticated (unsignedFile worker revision) := by
  intro path snapshot _ hload keyId
  obtain ⟨bytes, hbytes, hdecoded, -⟩ :=
    @of_loadSnapshot persistedCodec.prettyJson path _ snapshot hload
  obtain rfl := Except.ok.inj hbytes
  have hwritten := persistedCodec.fromSlice_put (unsignedSnapshot worker revision)
  rw [← Option.some.inj (hwritten.symm.trans hdecoded)]
  exact nofun

/-- The unsigned file says that another worker is to be used at the revision of the control
plane. It keeps the gateway from starting, which it would do without a file. -/
theorem bootstrap_depends_on_unauthenticated_file :
    sampleConfig.authenticator.isRequired = true ∧
    @waitForControlConfiguration checksumEd25519 standardBase64 sampleConfig sampleRounds =
      .ok sampleLive ∧
    validateCommitted sampleLive.committed = .ok () ∧
    SampleUnauthenticated missingFile ∧ SampleUnauthenticated (unsignedFile "x" 1) ∧
    sampleBootstrap missingFile = .ok (initialFromLive sampleLive) ∧
    sampleBootstrap (unsignedFile "x" 1) = .error (disagreement signedCommitted) := by
  refine ⟨rfl, sampleLive_eq, by decide +kernel, unauthenticated_missingFile,
    unauthenticated_unsignedFile "x" 1, ?_, ?_⟩
  · decide +kernel
  · decide +kernel

theorem bootstrap_ignores_unauthenticated_file_stale :
    sampleBootstrap missingFile = sampleBootstrap (unsignedFile "x" 2) := by
  refine (@bootstrap_ignores_unauthenticated_file_iff checksumEd25519 standardBase64 sampleConfig
    persistedCodec.prettyJson missingFile (unsignedFile "x" 2) sampleRounds sampleLive rfl
    sampleLive_eq (by decide +kernel) unauthenticated_missingFile
    (unauthenticated_unsignedFile "x" 2) 5 5).mpr ?_
  refine iff_of_false ?_ ?_
  · rintro ⟨path, snapshot, -, hload, -⟩
    cases hload
  · rintro ⟨path, snapshot, -, hload, -, hrevision, -⟩
    obtain ⟨bytes, hbytes, hdecoded, -⟩ :=
      @of_loadSnapshot persistedCodec.prettyJson path _ snapshot hload
    obtain rfl := Except.ok.inj hbytes
    have hwritten := persistedCodec.fromSlice_put (unsignedSnapshot "x" 2)
    rw [← Option.some.inj (hwritten.symm.trans hdecoded)] at hrevision
    exact absurd hrevision (by decide)

end Sample

end InferLab.Gateway
