import InferLab.Gateway.Watcher

/-!
# Gateway: which configurations are ever in force

What a gateway does is logged. Every entry is allowed by the entries before it: what is applied is
authenticated and not below what was applied before, and it has been saved; what renews the lease
agrees with the configuration in force.
-/

namespace InferLab.Gateway

open ServiceAuth ControlAuth Wire Except Option List

/-! ## Configurations that may follow each other -/

/-- A configuration with the key that has signed it. -/
abbrev Applied : Type := CommittedRoutingConfiguration × Option String

/-- The key is at least as preferred, if signatures are required. -/
def PreferenceKept (authenticator : ControlAuthenticator) (key later : Option String) : Prop :=
  ∀ keys, authenticator = .required keys → ∀ preference,
    key.bind keys.keyPreference = some preference →
      ∃ preference', later.bind keys.keyPreference = some preference' ∧ preference ≤ preference'

/-- `later` may be applied after `earlier`. -/
structure NotBelow (authenticator : ControlAuthenticator) (earlier later : Applied) : Prop where
  revision : earlier.1.revision ≤ later.1.revision
  payload : earlier.1.revision = later.1.revision → sameRoutingPayload earlier.1 later.1 = true
  preference : PreferenceKept authenticator earlier.2 later.2

lemma sameRoutingPayload_iff {left right : CommittedRoutingConfiguration} :
    sameRoutingPayload left right = true ↔ left.clusterId = right.clusterId ∧
      left.revision = right.revision ∧ left.term = right.term ∧
      left.configuration = right.configuration := by
  simp [sameRoutingPayload, and_assoc]

lemma sameRoutingPayload_comm {left right : CommittedRoutingConfiguration}
    (h : sameRoutingPayload left right = true) : sameRoutingPayload right left = true := by
  rw [sameRoutingPayload_iff] at h ⊢
  exact ⟨h.1.symm, h.2.1.symm, h.2.2.1.symm, h.2.2.2.symm⟩

lemma sameRoutingPayload_trans {a b c : CommittedRoutingConfiguration}
    (hab : sameRoutingPayload a b = true) (hbc : sameRoutingPayload b c = true) :
    sameRoutingPayload a c = true := by
  rw [sameRoutingPayload_iff] at hab hbc ⊢
  exact ⟨hab.1.trans hbc.1, hab.2.1.trans hbc.2.1, hab.2.2.1.trans hbc.2.2.1,
    hab.2.2.2.trans hbc.2.2.2⟩

variable {authenticator : ControlAuthenticator}

lemma PreferenceKept.refl (key : Option String) : PreferenceKept authenticator key key :=
  fun _ _ preference h => ⟨preference, h, Nat.le_refl _⟩

lemma PreferenceKept.trans {a b c : Option String} (hab : PreferenceKept authenticator a b)
    (hbc : PreferenceKept authenticator b c) : PreferenceKept authenticator a c := by
  intro keys hkeys preference hpreference
  obtain ⟨preference', hpreference', hle⟩ := hab keys hkeys preference hpreference
  obtain ⟨preference'', hpreference'', hle'⟩ := hbc keys hkeys preference' hpreference'
  exact ⟨preference'', hpreference'', hle.trans hle'⟩

lemma NotBelow.refl (applied : Applied) : NotBelow authenticator applied applied :=
  ⟨UInt64.le_refl _, fun _ => sameRoutingPayload_iff.mpr ⟨rfl, rfl, rfl, rfl⟩,
    PreferenceKept.refl _⟩

lemma NotBelow.trans {a b c : Applied} (hab : NotBelow authenticator a b)
    (hbc : NotBelow authenticator b c) : NotBelow authenticator a c where
  revision := UInt64.le_trans hab.revision hbc.revision
  payload heq := by
    have hmiddle : a.1.revision = b.1.revision := by
      apply UInt64.le_antisymm hab.revision
      rw [heq]
      exact hbc.revision
    exact sameRoutingPayload_trans (hab.payload hmiddle) (hbc.payload (hmiddle ▸ heq))
  preference := hab.preference.trans hbc.preference

/-- Only a key that is less preferred is a downgrade. -/
theorem preferenceKept_of_keyTransition {current observed : Option String}
    (h : authenticator.keyTransition current observed ≠ .downgrade) :
    PreferenceKept authenticator current observed := by
  rintro keys rfl preference hpreference
  cases current with
  | none => cases hpreference
  | some current =>
    cases observed with
    | none => exact absurd rfl h
    | some observed =>
      have hpreference : keys.keyPreference current = some preference := hpreference
      by_cases heq : observed = current
      · exact ⟨preference, by rw [heq]; exact hpreference, Nat.le_refl _⟩
      · simp only [ControlAuthenticator.keyTransition, if_neg heq, hpreference] at h
        cases hobserved : keys.keyPreference observed with
        | none => simp [hobserved] at h
        | some preference' =>
          simp only [hobserved] at h
          by_cases hlt : preference < preference'
          · exact ⟨preference', hobserved, Nat.le_of_lt hlt⟩
          · rw [if_neg hlt] at h
            exact absurd rfl h

/-- With required signatures a transition is to the same key, up or down. -/
theorem eq_of_keyTransition {keys : TrustedKeyRing} {current observed : Option String}
    (hdowngrade : (ControlAuthenticator.required keys).keyTransition current observed ≠ .downgrade)
    (hupgrade : (ControlAuthenticator.required keys).keyTransition current observed = .upgrade →
      observed = current) : observed = current := by
  by_contra hne
  cases observed with
  | none => exact hdowngrade rfl
  | some observed =>
    cases current with
    | none => exact hne (hupgrade rfl)
    | some current =>
      have hdiffers : observed ≠ current := fun heq => hne (congrArg some heq)
      simp only [ControlAuthenticator.keyTransition, if_neg hdiffers] at hdowngrade hupgrade
      cases hcurrent : keys.keyPreference current <;>
        cases hobserved : keys.keyPreference observed <;>
        simp only [hcurrent, hobserved, ne_eq, not_true_eq_false] at hdowngrade hupgrade
      rename_i currentPreference observedPreference
      by_cases hlt : currentPreference < observedPreference
      · exact hne (hupgrade (if_pos hlt))
      · exact hdowngrade (if_neg hlt)

/-! ## Answers and the first configuration -/

section Bootstrap

variable [Ed25519] [Base64]

/-- What every configuration is checked for before it is applied. -/
structure AppliedSafe (config : GatewayConfig) (applied : Applied) : Prop where
  authenticated : config.authenticator.verify applied.1 = .ok applied.2
  cluster : applied.1.clusterId = config.expectedClusterId
  valid : validateCommitted applied.1 = .ok ()

variable {config : GatewayConfig}

lemma of_fetchControlConfiguration {responses : List ControlResponse}
    {verified : VerifiedControlConfiguration}
    (h : (fetchControlConfiguration config responses).configuration = some verified) :
    config.authenticator.verify verified.committed = .ok verified.signingKeyId ∧
      verified.committed.clusterId = config.expectedClusterId := by
  suffices hloop : ∀ mismatches failures,
      (fetchControlConfiguration.loop config mismatches failures responses).configuration =
        some verified →
      config.authenticator.verify verified.committed = .ok verified.signingKeyId ∧
        verified.committed.clusterId = config.expectedClusterId from hloop [] [] h
  clear h
  induction responses with
  | nil =>
    intro mismatches failures h
    cases h
  | cons response responses ih =>
    intro mismatches failures h
    unfold fetchControlConfiguration.loop at h
    cases hconfiguration : response.configuration with
    | none =>
      simp only [hconfiguration] at h
      exact ih _ _ h
    | some configuration =>
      simp only [hconfiguration] at h
      cases hverify : config.authenticator.verify configuration with
      | error error =>
        simp only [hverify] at h
        exact ih _ _ h
      | ok signingKeyId =>
        simp only [hverify] at h
        by_cases hcluster : configuration.clusterId = config.expectedClusterId
        · rw [if_pos hcluster] at h
          obtain rfl := some.inj h
          exact ⟨hverify, hcluster⟩
        · rw [if_neg hcluster] at h
          exact ih _ _ h

lemma of_waitForControlConfiguration {rounds : List (List ControlResponse)}
    {verified : VerifiedControlConfiguration}
    (h : waitForControlConfiguration config rounds = .ok verified) :
    config.authenticator.verify verified.committed = .ok verified.signingKeyId ∧
      verified.committed.clusterId = config.expectedClusterId := by
  suffices hloop : ∀ mismatch failure,
      waitForControlConfiguration.loop config mismatch failure rounds = .ok verified →
      config.authenticator.verify verified.committed = .ok verified.signingKeyId ∧
        verified.committed.clusterId = config.expectedClusterId from hloop none none h
  clear h
  induction rounds with
  | nil =>
    intro mismatch failure h
    cases h
  | cons responses rounds ih =>
    intro mismatch failure h
    unfold waitForControlConfiguration.loop at h
    cases hfetched : (fetchControlConfiguration config responses).configuration with
    | none =>
      simp only [hfetched] at h
      exact ih _ _ h
    | some found =>
      simp only [hfetched] at h
      obtain rfl := ok.inj h
      exact of_fetchControlConfiguration hfetched

variable [PrettyJson PersistedRoutingSnapshot] {file : SnapshotFile}

variable (config) in
/-- An authenticated snapshot of the expected cluster in the file. -/
structure DiskSnapshot (file : SnapshotFile) (snapshot : PersistedRoutingSnapshot)
    (key : Option String) : Prop where
  loaded : ∃ path, config.snapshotStore = some path ∧ loadSnapshot path file = .ok snapshot
  authenticated : config.authenticator.verify snapshot.committed = .ok key
  cluster : snapshot.committed.clusterId = config.expectedClusterId

variable {snapshot : PersistedRoutingSnapshot}

lemma DiskSnapshot.safe {key : Option String} (h : DiskSnapshot config file snapshot key) :
    AppliedSafe config (snapshot.committed, key) := by
  obtain ⟨path, -, hload⟩ := h.loaded
  obtain ⟨_, -, -, hvalid⟩ := of_loadSnapshot hload
  exact ⟨h.authenticated, h.cluster, hvalid⟩

/-- There is one snapshot in the file. -/
theorem DiskSnapshot.unique {snapshot snapshot' : PersistedRoutingSnapshot}
    {key key' : Option String} (h : DiskSnapshot config file snapshot key)
    (h' : DiskSnapshot config file snapshot' key') : snapshot = snapshot' ∧ key = key' := by
  obtain ⟨path, hpath, hload⟩ := h.loaded
  obtain ⟨path', hpath', hload'⟩ := h'.loaded
  obtain rfl := some.inj (hpath.symm.trans hpath')
  obtain rfl := ok.inj (hload.symm.trans hload')
  exact ⟨rfl, ok.inj (h.authenticated.symm.trans h'.authenticated)⟩

variable (config) in
/-- What a gateway starts from. -/
structure Initial (file : SnapshotFile) (initial : InitialControlConfiguration) : Prop where
  safe : AppliedSafe config (initial.committed, initial.verifiedSigningKeyId)
  notBelow : ∀ snapshot key, DiskSnapshot config file snapshot key →
    NotBelow config.authenticator (snapshot.committed, key)
      (initial.committed, initial.verifiedSigningKeyId)
  source : initial.bootstrapSource = .live ∨ ∃ snapshot key,
    DiskSnapshot config file snapshot key ∧ snapshot.committed = initial.committed

/-- A start from the file. -/
theorem DiskSnapshot.initial {key : Option String} (h : DiskSnapshot config file snapshot key)
    (freshness : SnapshotFreshness) :
    Initial config file (initialFromDisk snapshot freshness key) where
  safe := h.safe
  notBelow snapshot' key' h' := by
    obtain ⟨rfl, rfl⟩ := h.unique h'
    exact NotBelow.refl _
  source := .inr ⟨snapshot, key, h, rfl⟩

variable {initial : InitialControlConfiguration}

lemma of_bootstrapFromDisk {liveError : IoError} {nowMs : UInt64}
    (h : bootstrapFromDisk config (config.snapshotStore.map fun path =>
      (loadSnapshot path file).mapError fun error => s!"{path}: {error.message}") liveError nowMs =
        .ok initial) : Initial config file initial := by
  cases hstore : config.snapshotStore with
  | none =>
    rw [hstore] at h
    cases h
  | some path =>
    cases hload : loadSnapshot path file with
    | error error =>
      simp only [hstore, map_some, hload, Except.mapError] at h
      cases h
    | ok snapshot =>
      simp only [hstore, map_some, hload, Except.mapError, bootstrapFromDisk] at h
      obtain ⟨key, hkey, h⟩ := of_bind h
      obtain ⟨_, hcluster, h⟩ := of_bind h
      obtain ⟨freshness, _, h⟩ := of_bind h
      rw [← ok.inj h]
      have hkey := of_mapError hkey
      obtain ⟨_, _, hcluster⟩ := of_bind (of_mapError hcluster)
      exact DiskSnapshot.initial ⟨⟨path, hstore, hload⟩, hkey,
        eq_of_beq (of_require hcluster)⟩ freshness

omit [PrettyJson PersistedRoutingSnapshot] in
/-- The file is compared with the answer when it is authenticated and of the expected cluster. -/
theorem checkDiskSnapshot_of_authenticated {key : Option String}
    {live : VerifiedControlConfiguration} {nowMs : UInt64}
    (hkey : config.authenticator.verify snapshot.committed = .ok key)
    (hcluster : snapshot.committed.clusterId = config.expectedClusterId)
    {result : Option InitialControlConfiguration}
    (h : checkDiskSnapshot config snapshot live nowMs = .ok result) :
    (∃ freshness, result = some (initialFromDisk snapshot freshness key)) ∨
      result = none ∧
        config.authenticator.keyTransition key live.signingKeyId ≠ .downgrade ∧
        snapshot.committed.revision ≤ live.committed.revision := by
  unfold checkDiskSnapshot at h
  simp only [hkey, Except.toOption, isNone_some, Bool.false_and, Bool.false_eq_true,
    if_false, hcluster, ne_eq, not_true_eq_false, join_some] at h
  by_cases hdowngrade : config.authenticator.keyTransition key live.signingKeyId = .downgrade
  · rw [if_pos hdowngrade] at h
    obtain ⟨freshness, _, h⟩ := of_bind h
    exact .inl ⟨freshness, (ok.inj h).symm⟩
  rw [if_neg hdowngrade] at h
  by_cases holder : live.committed.revision < snapshot.committed.revision
  · rw [if_pos holder] at h
    obtain ⟨freshness, _, h⟩ := of_bind h
    exact .inl ⟨freshness, (ok.inj h).symm⟩
  · rw [if_neg holder] at h
    exact .inr ⟨(ok.inj h).symm, hdowngrade, UInt64.not_lt.mp holder⟩

omit [PrettyJson PersistedRoutingSnapshot] in
/-- A gateway starts from a file instead of an answer only if the file is authenticated. -/
theorem authenticated_of_checkDiskSnapshot {live : VerifiedControlConfiguration} {nowMs : UInt64}
    (h : checkDiskSnapshot config snapshot live nowMs = .ok (some initial)) :
    snapshot.committed.clusterId = config.expectedClusterId ∧
      ∃ key, config.authenticator.verify snapshot.committed = .ok key := by
  unfold checkDiskSnapshot at h
  cases hverify : config.authenticator.verify snapshot.committed with
  | ok key =>
    by_cases hcluster : snapshot.committed.clusterId = config.expectedClusterId
    · exact ⟨hcluster, key, rfl⟩
    · simp [hverify, Except.toOption, hcluster] at h
  | error error =>
    -- without required signatures every configuration is authenticated
    cases hauthenticator : config.authenticator with
    | disabled =>
      rw [hauthenticator] at hverify
      cases hverify
    | required keys =>
      have hrequired : config.authenticator.isRequired = true := by
        rw [hauthenticator]
        rfl
      simp [hverify, Except.toOption, hrequired] at h

lemma of_bootstrapControlConfiguration {rounds : List (List ControlResponse)} {nowMs : UInt64}
    (h : bootstrapControlConfiguration config file rounds nowMs = .ok initial) :
    Initial config file initial := by
  unfold bootstrapControlConfiguration at h
  cases hlive : waitForControlConfiguration config rounds with
  | error error =>
    simp only [hlive] at h
    exact of_bootstrapFromDisk h
  | ok live =>
    simp only [hlive] at h
    cases hvalid : validateCommitted live.committed with
    | error error =>
      simp only [hvalid] at h
      exact of_bootstrapFromDisk h
    | ok _ =>
      simp only [hvalid] at h
      obtain ⟨hverify, hcluster⟩ := of_waitForControlConfiguration hlive
      have hsafe : AppliedSafe config (live.committed, live.signingKeyId) :=
        ⟨hverify, hcluster, hvalid⟩
      cases hstore : config.snapshotStore with
      | none =>
        rw [hstore] at h
        rw [← ok.inj h]
        refine ⟨hsafe, fun snapshot key hdisk => ?_, .inl rfl⟩
        obtain ⟨path, hpath, -⟩ := hdisk.loaded
        exact absurd (hstore.symm.trans hpath) (by simp)
      | some path =>
        cases hload : loadSnapshot path file with
        | error error =>
          simp only [hstore, map_some, hload, Except.mapError] at h
          rw [← ok.inj h]
          refine ⟨hsafe, fun snapshot key hdisk => ?_, .inl rfl⟩
          obtain ⟨path', hpath, hload'⟩ := hdisk.loaded
          obtain rfl := some.inj (hstore.symm.trans hpath)
          exact absurd (hload.symm.trans hload') (by simp)
        | ok snapshot =>
          simp only [hstore, map_some, hload, Except.mapError] at h
          obtain ⟨result, hresult, h⟩ := of_bind h
          cases result with
          | some found =>
            obtain rfl : found = initial := ok.inj h
            obtain ⟨hcluster, key, hkey⟩ := authenticated_of_checkDiskSnapshot hresult
            rcases checkDiskSnapshot_of_authenticated hkey hcluster hresult with
              ⟨freshness, heq⟩ | ⟨hnone, -⟩
            · rw [some.inj heq]
              exact DiskSnapshot.initial ⟨⟨path, hstore, hload⟩, hkey, hcluster⟩ freshness
            · cases hnone
          | none =>
            obtain ⟨_, hagrees, h⟩ := of_bind h
            rw [← ok.inj h]
            refine ⟨hsafe, fun snapshot' key hdisk => ?_, .inl rfl⟩
            obtain ⟨path', hpath, hload'⟩ := hdisk.loaded
            obtain rfl := some.inj (hstore.symm.trans hpath)
            obtain rfl := ok.inj (hload.symm.trans hload')
            rcases checkDiskSnapshot_of_authenticated hdisk.authenticated hdisk.cluster hresult with
              ⟨freshness, heq⟩ | ⟨-, htransition, hle⟩
            · cases heq
            · refine ⟨hle, fun heq => ?_, preferenceKept_of_keyTransition htransition⟩
              have hagrees := of_require hagrees
              have heq : snapshot.committed.revision = live.committed.revision := heq
              show sameRoutingPayload snapshot.committed live.committed = true
              simpa [hdisk.cluster, heq] using hagrees

end Bootstrap

/-! ## Answers that are accepted -/

section Responses

variable {P : Type} {config : WatcherConfig P} {process : Process P}
  {verified : VerifiedControlConfiguration}

/-- An answer that is accepted is valid, not older than the configuration in force, and has the
same content if it is as old. -/
structure Accepted (config : WatcherConfig P) (process : Process P)
    (verified : VerifiedControlConfiguration) : Prop where
  valid : validateCommitted verified.committed = .ok ()
  transition : config.authenticator.keyTransition process.routing.controlSigningKeyId
    verified.signingKeyId ≠ .downgrade
  revision : process.routing.controlRevision.getD 0 ≤ verified.committed.revision
  payload : verified.committed.revision = process.routing.controlRevision.getD 0 →
    sameRoutingPayload verified.committed process.appliedConfiguration = true

/-- An answer that is accepted and not applied has the key of the configuration in force, or is no
change for the better. -/
theorem of_judgeResponse {result : Option P}
    (h : judgeResponse config process verified = .ok result) :
    Accepted config process verified ∧ (result = none →
      verified.committed.revision = process.routing.controlRevision.getD 0 ∧
      (config.authenticator.keyTransition process.routing.controlSigningKeyId
          verified.signingKeyId = .upgrade →
        verified.signingKeyId = process.routing.controlSigningKeyId)) := by
  obtain ⟨_, hvalid, h⟩ := of_bind h
  obtain ⟨_, htransition, h⟩ := of_bind h
  obtain ⟨_, hrevision, h⟩ := of_bind h
  obtain ⟨_, hpayload, h⟩ := of_bind h
  have htransition := of_decide_eq_true (of_require htransition)
  have hrevision := of_require hrevision
  have hpayload := of_require hpayload
  have hle : process.routing.controlRevision.getD 0 ≤ verified.committed.revision := by
    simpa using hrevision
  refine ⟨⟨of_mapError hvalid, htransition, hle, fun heq => ?_⟩, ?_⟩
  · simpa [heq] using hpayload
  · rintro rfl
    by_cases hnew : process.routing.controlRevision.getD 0 < verified.committed.revision
    · simp only [hnew, decide_true, Bool.true_or, if_true] at h
      obtain ⟨pool, _, h⟩ := of_bind h
      cases h
    · have heq : verified.committed.revision = process.routing.controlRevision.getD 0 :=
        UInt64.le_antisymm (UInt64.not_lt.mp hnew) hle
      refine ⟨heq, fun hupgrade => ?_⟩
      by_contra hkey
      simp [hupgrade, heq, hkey] at h
      cases h

end Responses

/-! ## Logs -/

/-- What has been applied, in order. -/
def appliedEvents (log : List Event) : List Applied :=
  log.filterMap fun
    | .applied committed signingKeyId => some (committed, signingKeyId)
    | _ => none

@[simp]
lemma appliedEvents_append (log log' : List Event) :
    appliedEvents (log ++ log') = appliedEvents log ++ appliedEvents log' :=
  filterMap_append

@[simp]
lemma appliedEvents_saved (committed : CommittedRoutingConfiguration) :
    appliedEvents [.saved committed] = [] := rfl

@[simp]
lemma appliedEvents_applied (committed : CommittedRoutingConfiguration)
    (signingKeyId : Option String) :
    appliedEvents [.applied committed signingKeyId] = [(committed, signingKeyId)] := rfl

@[simp]
lemma appliedEvents_renewed (response : CommittedRoutingConfiguration)
    (signingKeyId : Option String) : appliedEvents [.renewed response signingKeyId] = [] := rfl

/-- Where the last configuration was applied. -/
theorem exists_last_applied {log : List Event} {last : Applied}
    (h : (appliedEvents log).getLast? = some last) :
    ∃ before after, log = before ++ .applied last.1 last.2 :: after ∧ appliedEvents after = [] := by
  induction log using List.reverseRecOn with
  | nil => cases h
  | append_singleton log event ih =>
    have hskip (hnone : appliedEvents [event] = []) : ∃ before after,
        log ++ [event] = before ++ .applied last.1 last.2 :: after ∧ appliedEvents after = [] := by
      rw [appliedEvents_append, hnone, append_nil] at h
      obtain ⟨before, after, hlog, hafter⟩ := ih h
      refine ⟨before, after ++ [event], by rw [hlog]; simp, ?_⟩
      rw [appliedEvents_append, hafter, hnone, append_nil]
    cases event with
    | saved committed => exact hskip rfl
    | renewed response signingKeyId => exact hskip rfl
    | applied committed signingKeyId =>
      rw [appliedEvents_append, appliedEvents_applied, List.getLast?_concat] at h
      obtain rfl := some.inj h
      exact ⟨log, [], rfl, rfl⟩

/-- How often the lease was renewed. -/
def renewals (log : List Event) : ℕ :=
  log.countP fun
    | .renewed _ _ => true
    | _ => false

@[simp]
lemma renewals_append (log log' : List Event) :
    renewals (log ++ log') = renewals log + renewals log' := countP_append

section Logs

variable [Ed25519] [Base64] [PrettyJson PersistedRoutingSnapshot] (config : GatewayConfig)
  (file : SnapshotFile)

/-- What may come after `before`. -/
def Allowed (before : List Event) : Event → Prop
  | .saved _ => True
  | .applied committed key =>
    AppliedSafe config (committed, key) ∧
    (∀ earlier ∈ appliedEvents before,
      NotBelow config.authenticator earlier (committed, key)) ∧
    (∀ snapshot diskKey, DiskSnapshot config file snapshot diskKey →
      NotBelow config.authenticator (snapshot.committed, diskKey) (committed, key)) ∧
    (config.snapshotStore.isSome → before.getLast? = some (.saved committed) ∨
      ∃ snapshot diskKey, DiskSnapshot config file snapshot diskKey ∧
        snapshot.committed = committed)
  | .renewed response key => ∃ committed, (appliedEvents before).getLast? = some (committed, key) ∧
    sameRoutingPayload response committed = true

/-- Every entry is allowed after those before it. -/
def Lawful (log : List Event) : Prop :=
  ∀ before event after, log = before ++ event :: after → Allowed config file before event

variable {config file} {log : List Event}

lemma lawful_nil : Lawful config file [] := by
  intro before event after h
  simp at h

lemma Lawful.snoc (h : Lawful config file log) {event : Event}
    (hallowed : Allowed config file log event) : Lawful config file (log ++ [event]) := by
  intro before found after heq
  rcases eq_nil_or_concat after with rfl | ⟨after, last, rfl⟩
  · obtain ⟨rfl, hlast⟩ := append_inj' heq rfl
    obtain rfl := (List.cons.inj hlast).1
    exact hallowed
  · have hsplit : log ++ [event] = (before ++ found :: after) ++ [last] := by
      rw [heq]
      simp
    obtain ⟨hlog, -⟩ := append_inj' hsplit rfl
    exact h before found after hlog

/-- What was applied is not below what was applied before. -/
theorem Lawful.notBelow_last (h : Lawful config file log) {last : Applied}
    (hlast : (appliedEvents log).getLast? = some last) :
    (∀ earlier ∈ appliedEvents log, NotBelow config.authenticator earlier last) ∧
      ∀ snapshot diskKey, DiskSnapshot config file snapshot diskKey →
        NotBelow config.authenticator (snapshot.committed, diskKey) last := by
  obtain ⟨before, after, rfl, hafter⟩ := exists_last_applied hlast
  obtain ⟨-, hearlier, hdisk, -⟩ := h before _ after rfl
  refine ⟨fun earlier hmem => ?_, hdisk⟩
  have hsplit : before ++ Event.applied last.1 last.2 :: after =
      (before ++ [.applied last.1 last.2]) ++ after := by simp
  rw [hsplit, appliedEvents_append, hafter, append_nil, appliedEvents_append] at hmem
  rcases mem_append.mp hmem with hmem | hmem
  · exact hearlier earlier hmem
  · rw [mem_singleton.mp hmem]
    exact NotBelow.refl _

end Logs

end InferLab.Gateway
