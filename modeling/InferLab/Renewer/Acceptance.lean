import InferLab.Renewer.Publications

/-!
# Trust renewer: every state that is written can be opened again

A renewer that is started again with its configuration takes up the state that it finds. The
checks of a start hold of the first state and are kept by every change.
-/

namespace InferLab.Renewer

open ServiceAuth Wire Attempt Option Except List

/-! ## The configuration -/

section Authority

variable [Ed25519] [Base64] [Sha256] [Json EncodedRenewalTemplate] [LawfulSha256]

lemma validSha256_semanticFingerprint {bytes : Bytes} {clusterId : String}
    {template : RenewalTemplate} (h : RenewalTemplate.decode bytes clusterId = .ok template) :
    validSha256 template.semanticFingerprint = true := by
  unfold RenewalTemplate.decode at h
  obtain ⟨_, _, h⟩ := of_bind h
  obtain ⟨_, _, h⟩ := of_bind h
  cases hencoded : (Json.fromSlice bytes : Option EncodedRenewalTemplate) with
  | none =>
    rw [hencoded] at h
    cases h
  | some encoded =>
    rw [hencoded] at h
    obtain ⟨_, _, h⟩ := of_bind h
    obtain ⟨_, _, h⟩ := of_bind h
    obtain ⟨_, _, h⟩ := of_bind h
    obtain ⟨_, _, h⟩ := of_bind h
    obtain ⟨_, _, h⟩ := of_bind h
    obtain ⟨semantics, _, h⟩ := of_bind h
    rw [← ok.inj h]
    exact validSha256_sha256Hex semantics

/-- What the configuration is checked for. -/
structure Authority.Checked (authority : Authority) : Prop where
  seed : authority.signer.seed.length = 32
  authorityFingerprint : validSha256 authority.authorityFingerprint = true
  templateFingerprint : validSha256 authority.template.semanticFingerprint = true

lemma Authority.checked_of_config {config : RenewerConfig} {authority : Authority}
    (h : config.authority = .ok authority) : authority.Checked := by
  unfold RenewerConfig.authority at h
  obtain ⟨_, _, h⟩ := of_bind h
  obtain ⟨_, hsigner, h⟩ := of_bind h
  obtain ⟨template, htemplate, h⟩ := of_bind h
  obtain ⟨fingerprint, hfingerprint, h⟩ := of_bind h
  obtain ⟨_, _, h⟩ := of_bind h
  obtain rfl := ok.inj h
  have hsigner := of_require hsigner
  simp only [Bool.and_eq_true, beq_iff_eq] at hsigner
  refine ⟨hsigner.2, ?_, ?_⟩
  · have hfingerprint := of_mapError hfingerprint
    obtain ⟨_, _, hfingerprint⟩ := of_bind hfingerprint
    obtain ⟨_, _, hfingerprint⟩ := of_bind hfingerprint
    obtain ⟨bytes, _, hfingerprint⟩ := of_bind hfingerprint
    rw [← ok.inj hfingerprint]
    exact validSha256_sha256Hex bytes
  · exact validSha256_semanticFingerprint (of_mapError htemplate)

end Authority

/-! ## States -/

section States

variable [Ed25519] [Base64] [Sha256] [Json ServiceTrustSnapshot]

/-- What a start checks. -/
structure Acceptable (authority : Authority) (state : DurableRenewalState) : Prop where
  schema : state.schema = trustRenewerStateSchema
  authorityFingerprint : state.authorityFingerprint = authority.authorityFingerprint
  templateFingerprint : state.templateFingerprint = authority.template.semanticFingerprint
  committed : ∀ committed ∈ state.committed, committed.isValid = true
  linked : Linked state
  loaded : authority.validateLoadedState state = .ok ()

variable {authority : Authority} {state next : DurableRenewalState}

lemma Acceptable.validate (hauthority : authority.Checked) (h : Acceptable authority state) :
    state.validate authority.authorityFingerprint authority.template.semanticFingerprint =
      .ok () := by
  simp only [DurableRenewalState.validate, bind_eq_ok_iff, require_eq_ok_iff, Bool.and_eq_true,
    beq_iff_eq]
  refine ⟨(), h.schema, (), ⟨h.authorityFingerprint, h.templateFingerprint⟩, (), ?_, (), ?_,
    h.linked⟩
  · rw [h.authorityFingerprint, h.templateFingerprint]
    exact ⟨hauthority.authorityFingerprint, hauthority.templateFingerprint⟩
  · cases hcommitted : state.committed with
    | none => rfl
    | some committed => exact h.committed committed hcommitted

lemma acceptable_emptyState (authority : Authority) :
    Acceptable authority authority.emptyState where
  schema := rfl
  authorityFingerprint := rfl
  templateFingerprint := rfl
  committed _ h := absurd h (not_mem_none _)
  linked := rfl
  loaded := rfl

variable {snapshot : ServiceTrustSnapshot}

omit [Sha256] [Json ServiceTrustSnapshot] in
/-- What a verified policy of the distributor says makes a valid record. -/
theorem shape_of_verifyRemote {effectiveNowMs expiresAtMs : UInt64}
    (hverified : authority.verifyRemote snapshot effectiveNowMs = .ok ())
    (hexpires : snapshot.policy.expiresAtMs = some expiresAtMs) :
    snapshot.policy.generation ≠ 0 ∧ snapshot.policy.issuedAtMs ≠ 0 ∧
      snapshot.policy.issuedAtMs < expiresAtMs := by
  obtain ⟨_, _, hverified⟩ := of_bind hverified
  obtain ⟨verified, hroot, _⟩ := of_bind hverified
  have hcompiled := (RootVerified.of_verify (of_mapError hroot)).compiled
  obtain ⟨_, hshape, _⟩ := of_bind hcompiled
  obtain ⟨version, hshaped⟩ := ServiceTrust.exists_shaped hshape
  refine ⟨hshaped.generation, hshaped.issuedAtMs, ?_⟩
  cases version with
  | v1 => exact absurd (hexpires.symm.trans hshaped.expiresAtMs_eq_none) (by simp)
  | v2 =>
    obtain ⟨found, hfound, hlt⟩ := hshaped.exists_expiresAtMs
    rwa [some.inj (hexpires.symm.trans hfound)]

omit [Ed25519] [Base64] [Sha256] [Json ServiceTrustSnapshot] in
lemma isValid_iff {committed : CommittedRenewal} :
    committed.isValid = true ↔ committed.generation ≠ 0 ∧ committed.issuedAtMs ≠ 0 ∧
      committed.issuedAtMs < committed.expiresAtMs ∧
      validSha256 committed.snapshotSha256 = true := by
  simp [CommittedRenewal.isValid, and_assoc]

/-- A start looks at the bytes of the pending renewal, and at its signature. -/
theorem validateLoadedState_of_pending {pending : PendingRenewal}
    (hpending : state.pending = some pending) (hsnapshot : pending.snapshot = .ok snapshot)
    (hkey : snapshot.authentication.keyId = authority.signer.keyId)
    (hroot : ∃ verified, authority.roots.verify snapshot = .ok verified)
    (hsemantics : authority.template.validateSnapshotSemantics snapshot authority.signer.keyId =
      .ok ()) (hlifetime : validateSnapshotLifetime snapshot authority.timing = true) :
    authority.validateLoadedState state = .ok () := by
  obtain ⟨verified, hroot⟩ := hroot
  simp only [Authority.validateLoadedState, hpending, bind_eq_ok_iff, mapError_eq_ok_iff,
    require_eq_ok_iff, beq_iff_eq]
  exact ⟨snapshot, hsnapshot, (), hkey, verified, hroot, (), hsemantics, hlifetime⟩

variable [LawfulEd25519] [LawfulBase64] [LawfulJson ServiceTrustSnapshot]

/-- A staged renewal passes the checks of a start. -/
theorem validateLoadedState_of_signNext (hauthority : authority.Checked)
    {previousGeneration : Option UInt64} {issuedAtMs : UInt64} {lateRecovery : Bool}
    {pending : PendingRenewal}
    (hsigned : authority.template.signNext previousGeneration issuedAtMs authority.timing
      authority.signer = .ok snapshot)
    (hfrom : PendingRenewal.fromSnapshot snapshot lateRecovery = .ok pending)
    (hpending : state.pending = some pending) : authority.validateLoadedState state = .ok () := by
  have hnext := RenewalTemplate.SignedNext.of_signNext hsigned
  have hbytes := snapshot_of_fromSnapshot hfrom
  refine validateLoadedState_of_pending hpending hbytes (of_sign hnext.signed).2.2.1 ?_
    hnext.semantics ?_
  · refine exists_verify_of_sign hnext.signed hauthority.seed ?_ not_mem_nil
    simp [Authority.roots]
  · have hle : issuedAtMs ≤ issuedAtMs + authority.timing.policyLifetimeMs := by
      rw [UInt64.le_iff_toNat_le, UInt64.toNat_add]
      have := hnext.bounded
      omega
    have hlifetime : issuedAtMs + authority.timing.policyLifetimeMs - issuedAtMs =
        authority.timing.policyLifetimeMs := by
      rw [UInt64.add_comm, UInt64.add_sub_cancel]
    simp [validateSnapshotLifetime, hnext.expiresAtMs_eq, hnext.issuedAtMs_eq, hle, hlifetime]

variable [LawfulSha256]

lemma Write.acceptable (hauthority : authority.Checked) (h : Write authority state next)
    (hstate : Acceptable authority state) : Acceptable authority next := by
  have hlinked := h.linked hstate.linked
  cases h with
  | count counters => exact ⟨hstate.schema, hstate.authorityFingerprint,
      hstate.templateFingerprint, hstate.committed, hlinked, hstate.loaded⟩
  | @attempt pending lateRecovery counters hpending =>
    refine ⟨hstate.schema, hstate.authorityFingerprint, hstate.templateFingerprint,
      hstate.committed, hlinked, ?_⟩
    have hloaded := hstate.loaded
    simp only [Authority.validateLoadedState, hpending] at hloaded
    exact hloaded
  | @commit remote effectiveNowMs expiresAtMs counters hverified hexpires hcommittable =>
    refine ⟨hstate.schema, hstate.authorityFingerprint, hstate.templateFingerprint, ?_, hlinked,
      rfl⟩
    rintro _ ⟨rfl⟩
    obtain ⟨hgeneration, hissued, hlt⟩ := shape_of_verifyRemote hverified hexpires
    exact isValid_iff.mpr ⟨hgeneration, hissued, hlt, validSha256_sha256Hex _⟩
  | @refresh remote effectiveNowMs expiresAtMs committed hverified hexpires hcommitted =>
    refine ⟨hstate.schema, hstate.authorityFingerprint, hstate.templateFingerprint, ?_, hlinked,
      hstate.loaded⟩
    rintro _ ⟨rfl⟩
    obtain ⟨-, hissued, hlt⟩ := shape_of_verifyRemote hverified hexpires
    obtain ⟨hgeneration, -, -, hhash⟩ := isValid_iff.mp (hstate.committed committed hcommitted)
    exact isValid_iff.mpr ⟨hgeneration, hissued, hlt, hhash⟩
  | @stage snapshot pending issuedAtMs lateRecovery hnone hsigned hfrom =>
    exact ⟨hstate.schema, hstate.authorityFingerprint, hstate.templateFingerprint,
      hstate.committed, hlinked, validateLoadedState_of_signNext hauthority hsigned hfrom rfl⟩

lemma Later.acceptable (hauthority : authority.Checked) (h : Later authority state next)
    (hstate : Acceptable authority state) : Acceptable authority next := by
  induction h with
  | refl => exact hstate
  | tail _ hlast ih => exact hlast.acceptable hauthority ih

end States

/-! ## Policies of the distributor that contradict the state -/

section Contradictions

/-- Nothing is saved for a record that is older than the committed one, or another one of its
generation. -/
theorem reconcileRemoteFloor_ne_ok {state : DurableRenewalState}
    {record committed : CommittedRenewal} (hcommitted : state.committed = some committed)
    (h : record.generation < committed.generation ∨ record.generation = committed.generation ∧
      record.snapshotSha256 ≠ committed.snapshotSha256) (change : Option DurableRenewalState) :
    state.reconcileRemoteFloor record ≠ .ok change := by
  unfold DurableRenewalState.reconcileRemoteFloor
  simp only [hcommitted]
  rcases h with hlt | ⟨heq, hhash⟩
  · rw [if_pos hlt]
    exact nofun
  · rw [if_neg (heq ▸ UInt64.lt_irrefl _), if_pos heq, if_pos hhash]
    exact nofun

variable [Ed25519] [Base64] [Sha256]

/-- A policy of the distributor that an honest one would not have: older than what is known to be
published, other bytes for a generation that is known or about to be published, or not signed
with the key and the template of this renewer. `involved` are policies of which no two have one
digest. -/
inductive Contradicts (authority : Authority) (involved : Set Bytes)
    (state : DurableRenewalState) (remote : DistributorSnapshot) : Prop
  | older {committed : CommittedRenewal} : state.committed = some committed →
      remote.snapshot.policy.generation < committed.generation →
      Contradicts authority involved state remote
  | olderThanPending {pending : PendingRenewal} : state.committed = none →
      state.pending = some pending → remote.snapshot.policy.generation < pending.generation →
      Contradicts authority involved state remote
  | committedFork {committed : CommittedRenewal} {bytes : Bytes} :
      state.committed = some committed →
      remote.snapshot.policy.generation = committed.generation →
      committed.snapshotSha256 = sha256Hex bytes → bytes ∈ involved →
      remote.exactBytes ∈ involved → remote.exactBytes ≠ bytes →
      Contradicts authority involved state remote
  | pendingFork {pending : PendingRenewal} : state.pending = some pending →
      remote.snapshot.policy.generation = pending.generation →
      remote.exactBytes ≠ pending.exactSnapshotJson →
      Contradicts authority involved state remote
  | otherKey : remote.snapshot.authentication.keyId ≠ authority.signer.keyId →
      Contradicts authority involved state remote
  | unsigned : (∀ verified, authority.roots.verify remote.snapshot ≠ .ok verified) →
      Contradicts authority involved state remote
  | otherSemantics :
      authority.template.semanticallyMatchesPolicy remote.snapshot.policy = false →
      Contradicts authority involved state remote

variable {authority : Authority} {state : DurableRenewalState} {involved : Set Bytes}
  {remote : DistributorSnapshot} {effectiveNowMs expiresAtMs : UInt64}

omit [Ed25519] [Base64] in
lemma reconciled_ne_ok_of_committed [Json ServiceTrustSnapshot] {committed : CommittedRenewal}
    (hlinked : Linked state) (hcommitted : state.committed = some committed)
    (h : remote.snapshot.policy.generation < committed.generation ∨
      remote.snapshot.policy.generation = committed.generation ∧
        sha256Hex remote.exactBytes ≠ committed.snapshotSha256)
    (change : Option DurableRenewalState) : state.reconciled remote expiresAtMs ≠ .ok change := by
  have hle : remote.snapshot.policy.generation ≤ committed.generation := by
    rcases h with hlt | ⟨heq, -⟩
    · exact UInt64.le_of_lt hlt
    · exact heq ▸ UInt64.le_refl _
  unfold DurableRenewalState.reconciled
  cases hpending : state.pending with
  | some pending =>
    -- the pending renewal is newer than the policy, which is compared with the committed one
    obtain ⟨-, hnext⟩ := linked_iff.mp hlinked pending hpending
    rw [hcommitted] at hnext
    have hlt : remote.snapshot.policy.generation < pending.generation :=
      UInt64.lt_of_le_of_lt hle (lt_of_nextGeneration hnext)
    have hne : (remote.record expiresAtMs).generation ≠ pending.generation := UInt64.ne_of_lt hlt
    have hnot : ¬ pending.generation < (remote.record expiresAtMs).generation :=
      UInt64.lt_asymm hlt
    simp only [if_neg hne, if_neg hnot]
    exact reconcileRemoteFloor_ne_ok hcommitted h change
  | none =>
    simp only [hcommitted]
    rcases h with hlt | ⟨heq, hhash⟩
    · have hlt : (remote.record expiresAtMs).generation < committed.generation := hlt
      rw [if_pos hlt]
      exact nofun
    · have heq : (remote.record expiresAtMs).generation = committed.generation := heq
      have hhash : (remote.record expiresAtMs).snapshotSha256 ≠ committed.snapshotSha256 := hhash
      rw [if_neg (heq ▸ UInt64.lt_irrefl _), if_pos heq, if_pos hhash]
      exact nofun

omit [Ed25519] [Base64] in
lemma reconciled_ne_ok_of_pending {pending : PendingRenewal}
    (hpending : state.pending = some pending)
    (h : state.committed = none ∧ remote.snapshot.policy.generation < pending.generation ∨
      remote.snapshot.policy.generation = pending.generation ∧
        remote.exactBytes ≠ pending.exactSnapshotJson) (change : Option DurableRenewalState) :
    state.reconciled remote expiresAtMs ≠ .ok change := by
  unfold DurableRenewalState.reconciled
  simp only [hpending]
  rcases h with ⟨hnone, hlt⟩ | ⟨heq, hbytes⟩
  · have hne : (remote.record expiresAtMs).generation ≠ pending.generation := UInt64.ne_of_lt hlt
    have hnot : ¬ pending.generation < (remote.record expiresAtMs).generation :=
      UInt64.lt_asymm hlt
    rw [if_neg hne, if_neg hnot]
    unfold DurableRenewalState.reconcileRemoteFloor
    simp only [hnone]
    split <;> exact nofun
  · have heq : (remote.record expiresAtMs).generation = pending.generation := heq
    rw [if_pos heq, if_pos hbytes]
    exact nofun

/-- A step that meets such a policy fails closed. -/
theorem Contradicts.reconciled_ne_ok [Json ServiceTrustSnapshot] (hlinked : Linked state)
    (hfree : ∀ a ∈ involved, ∀ b ∈ involved, Sha256.digest a = Sha256.digest b → a = b)
    (h : Contradicts authority involved state remote)
    (hverified : authority.verifyRemote remote.snapshot effectiveNowMs = .ok ())
    (change : Option DurableRenewalState) : state.reconciled remote expiresAtMs ≠ .ok change := by
  obtain ⟨_, hkey, hverified⟩ := of_bind hverified
  obtain ⟨verified, hroot, hverified⟩ := of_bind hverified
  obtain ⟨_, hsemantics, _⟩ := of_bind hverified
  cases h with
  | older hcommitted hlt => exact reconciled_ne_ok_of_committed hlinked hcommitted (.inl hlt) _
  | olderThanPending hnone hpending hlt =>
    exact reconciled_ne_ok_of_pending hpending (.inl ⟨hnone, hlt⟩) _
  | committedFork hcommitted heq hhash hmem hmem' hne =>
    refine reconciled_ne_ok_of_committed hlinked hcommitted (.inr ⟨heq, fun hsame => ?_⟩) _
    exact hne (hfree _ hmem' _ hmem (digest_eq_of_sha256Hex (hsame.trans hhash)))
  | pendingFork hpending heq hbytes =>
    exact reconciled_ne_ok_of_pending hpending (.inr ⟨heq, hbytes⟩) _
  | otherKey hne => exact absurd (eq_of_beq (of_require hkey)) hne
  | unsigned hnot => exact absurd (of_mapError hroot) (hnot verified)
  | otherSemantics hnot =>
    have hsemantics := of_mapError hsemantics
    simp only [RenewalTemplate.validateSnapshotSemantics, RenewalTemplate.validatePolicySemantics,
      bind_eq_ok_iff, require_eq_ok_iff] at hsemantics
    obtain ⟨_, _, _, _, _, hmatches, _⟩ := hsemantics
    exact absurd (hmatches.symm.trans hnot) (by decide)

end Contradictions

/-! ## Steps that meet such a policy -/

/-- What a step leaves alone until it saves something. -/
def Session.Idle (s s' : Session Engine) : Prop :=
  s'.disk = s.disk ∧ s'.published = s.published ∧ s'.process.state = s.process.state

/-- The step fails closed. -/
def FailsIdle (s : Session Engine) (stop : Stop) (s' : Session Engine) : Prop :=
  (∃ kind, stop = .failed kind) ∧ s.Idle s'

variable {s : Session Engine}

/-- A check, with a fact that is known before it. -/
theorem check_idle {α : Type} {x : Except RenewerErrorKind α} {A : Prop} :
    Ensures (fun s' => s.Idle s' ∧ A) (check x) (fun a s' => s.Idle s' ∧ A ∧ x = .ok a)
      (FailsIdle s) := by
  rintro s' ⟨hs', hA⟩
  cases x with
  | ok a => exact ⟨hs', hA, rfl⟩
  | error kind => exact ⟨⟨kind, rfl⟩, hs'⟩

lemma observeClock_idle (reading : Option UInt64) :
    Ensures s.Idle (observeClock reading) (fun _ => s.Idle) (FailsIdle s) := by
  refine .bind (check_idle.imp (fun _ h => ⟨h, trivial⟩) (fun _ _ h => h) fun _ _ h => h)
    fun observed => ?_
  exact fun s' hs' => hs'.1

section Steps

variable [Ed25519] [Base64] [Sha256] [Json ServiceTrustSnapshot] [Json DurableRenewalState]
  {authority : Authority} {involved : Set Bytes} {remote : DistributorSnapshot}

lemma reconcile_of_contradicts (hlinked : Linked s.process.state)
    (hfree : ∀ a ∈ involved, ∀ b ∈ involved, Sha256.digest a = Sha256.digest b → a = b)
    (h : Contradicts authority involved s.process.state remote) (effectiveNowMs : UInt64)
    (outcome : PersistOutcome) :
    Ensures s.Idle (reconcile authority (some remote) effectiveNowMs outcome) (fun _ _ => False)
      (FailsIdle s) := by
  refine .read fun s₁ hs₁ => ?_
  have hidle : s.Idle s₁ ∧ s₁.process.state = s.process.state := ⟨hs₁, hs₁.2.2⟩
  refine Ensures.bind check_idle (fun _ => ?_) s₁ hidle
  refine Ensures.bind check_idle fun expiresAtMs => ?_
  refine .bind check_idle fun change => ?_
  rintro s₂ ⟨-, ⟨⟨hstate, hverified⟩, -⟩, hreconciled⟩
  rw [hstate] at hreconciled
  exact absurd hreconciled (h.reconciled_ne_ok hlinked hfree hverified change)

lemma attemptStep_of_contradicts {input : StepInput} (hlinked : Linked s.process.state)
    (hfree : ∀ a ∈ involved, ∀ b ∈ involved, Sha256.digest a = Sha256.digest b → a = b)
    (hreply : input.reply = .ok (some remote))
    (h : Contradicts authority involved s.process.state remote) :
    Ensures s.Idle (attemptStep authority input) (fun _ _ => False) (FailsIdle s) := by
  refine .bind (observeClock_idle _) fun _ => ?_
  refine .read fun s₁ hs₁ => ?_
  refine Ensures.bind (Q := fun _ => s.Idle) (Ensures.update fun s₂ hs₂ => hs₂) (fun _ => ?_) s₁ hs₁
  rw [hreply]
  refine .bind (observeClock_idle _) fun effectiveNowMs => ?_
  exact .bind (reconcile_of_contradicts hlinked hfree h effectiveNowMs _)
    fun _ _ hfalse => hfalse.elim

/-- The committed and the pending renewal are the same. -/
def SameRenewals (state later : DurableRenewalState) : Prop :=
  later.committed = state.committed ∧ later.pending = state.pending

/-- Nothing is published, and memory and file keep the renewals of `state`. -/
structure KeepsRenewals (state : DurableRenewalState) (disk : Storage (Option Bytes))
    (published : List Publication) (w' : RenewerState) : Prop where
  published : w'.published = published
  process : ∀ engine, w'.process = some engine → SameRenewals state engine.state
  disk : ∀ content ∈ w'.disk.history, content ∈ disk.history ∨
    ∃ later, decodeFile content = some later ∧ SameRenewals state later

omit [Ed25519] [Base64] [Sha256] [Json ServiceTrustSnapshot] in
lemma KeepsRenewals.failClosed [LawfulJson DurableRenewalState] {s s' : Session Engine}
    (h : s.Idle s') (kind : RenewerErrorKind) (outcome : PersistOutcome) :
    KeepsRenewals s.process.state s.disk s.published (failClosed kind outcome s') := by
  obtain ⟨hdisk, hpublished, hstate⟩ := h
  have hsame : SameRenewals s.process.state s'.process.state := by
    rw [hstate]
    exact ⟨rfl, rfl⟩
  have hcounted : SameRenewals s.process.state s'.process.state.countRejected := hsame
  have hold : ∀ content ∈ s'.disk.history, content ∈ s.disk.history ∨
      ∃ later, decodeFile content = some later ∧ SameRenewals s.process.state later := by
    rw [hdisk]
    exact fun content hmem => .inl hmem
  have hnew : ∀ content ∈ (s'.disk.replace (some (Json.toVec
      s'.process.state.countRejected))).history, content ∈ s.disk.history ∨
      ∃ later, decodeFile content = some later ∧ SameRenewals s.process.state later := by
    intro content hmem
    rw [Storage.history_replace] at hmem
    rcases mem_append.mp hmem with hmem | hmem
    · exact hold content hmem
    · rw [mem_singleton.mp hmem]
      exact .inr ⟨_, LawfulJson.fromSlice_toVec _, hcounted⟩
  unfold Renewer.failClosed
  by_cases hkind : kind = .stateDurabilityUncertain
  · rw [if_pos hkind]
    exact ⟨hpublished, fun engine hengine => some.inj hengine ▸ hsame, hold⟩
  rw [if_neg hkind]
  rcases persist_cases s'.disk s'.process.state.countRejected outcome with
    ⟨-, h | h | h⟩ | h | h <;> simp only [h]
  · refine ⟨hpublished, fun engine hengine => some.inj hengine ▸ hcounted, ?_⟩
    show ∀ content ∈ (Storage.sync _).history, _
    rw [Storage.history_sync]
    exact hnew
  · exact ⟨hpublished, fun engine hengine => some.inj hengine ▸ hcounted, hnew⟩
  · exact ⟨hpublished, fun engine hengine => absurd hengine (by simp), hnew⟩
  · exact ⟨hpublished, fun engine hengine => some.inj hengine ▸ hsame, hold⟩
  · exact ⟨hpublished, fun engine hengine => absurd hengine (by simp), hold⟩

lemma keepsRenewals_of_contradicts [LawfulJson DurableRenewalState] {input : StepInput}
    (hlinked : Linked s.process.state)
    (hfree : ∀ a ∈ involved, ∀ b ∈ involved, Sha256.digest a = Sha256.digest b → a = b)
    (hreply : input.reply = .ok (some remote))
    (h : Contradicts authority involved s.process.state remote) :
    KeepsRenewals s.process.state s.disk s.published (stepEngine authority input s) := by
  unfold stepEngine
  by_cases hclosed : s.process.phase = .failedClosed
  · rw [if_pos hclosed]
    exact ⟨rfl, fun engine hengine => some.inj hengine ▸ ⟨rfl, rfl⟩,
      fun content hmem => .inl hmem⟩
  · rw [if_neg hclosed]
    have hends := attemptStep_of_contradicts hlinked hfree hreply h s ⟨rfl, rfl, rfl⟩
    cases hresult : attemptStep authority input s with
    | ok outcome s' =>
      rw [hresult] at hends
      exact hends.elim
    | error stop s' =>
      rw [hresult] at hends
      obtain ⟨⟨kind, rfl⟩, hidle⟩ := hends
      exact KeepsRenewals.failClosed hidle kind input.failureSave

end Steps

/-! ## Runs -/

section Runs

variable [Ed25519] [Base64] [Sha256] [Json ServiceTrustSnapshot] [Json DurableRenewalState]

/-- The committed renewal of one content and of a later one. -/
def CommittedKept (content later : Option DurableRenewalState) : Prop :=
  ∀ state, content = some state → ∀ committed, state.committed = some committed →
    ∃ state' committed', later = some state' ∧ state'.committed = some committed' ∧
      committed.generation ≤ committed'.generation ∧
      (committed.generation = committed'.generation →
        committed.snapshotSha256 = committed'.snapshotSha256)

omit [Json DurableRenewalState] in
lemma Follows.committedKept {authority : Authority}
    {content later : Option DurableRenewalState} (hrooted : Follows authority none content)
    (h : Follows authority content later) : CommittedKept content later := by
  rintro state rfl committed hcommitted
  cases later with
  | none => exact h.elim
  | some state' =>
    obtain ⟨committed', hcommitted', hkept⟩ :=
      (Later.extends h hrooted.linked).committed committed hcommitted
    refine ⟨state', committed', rfl, hcommitted', ?_⟩
    rcases hkept with hlt | ⟨heq, hsame⟩
    · exact ⟨UInt64.le_of_lt hlt, fun heq => absurd heq (UInt64.ne_of_lt hlt)⟩
    · exact ⟨heq ▸ UInt64.le_refl _, fun _ => hsame⟩

/-- A pending renewal is the one after the committed one, or the first. -/
def PendingIsNext (state : DurableRenewalState) : Prop :=
  ∀ pending, state.pending = some pending →
    pending.generation.toNat =
      (state.committed.elim 0 fun committed => committed.generation.toNat) + 1

omit [Ed25519] [Base64] [Json DurableRenewalState] in
lemma Linked.pendingIsNext {state : DurableRenewalState} (h : Linked state) :
    PendingIsNext state := by
  intro pending hpending
  obtain ⟨-, hnext⟩ := linked_iff.mp h pending hpending
  cases hcommitted : state.committed with
  | none =>
    rw [hcommitted] at hnext
    rw [← some.inj hnext]
    rfl
  | some committed =>
    rw [hcommitted, nextGeneration] at hnext
    by_cases hbound : committed.generation.toNat + 1 < 2 ^ 64
    · rw [if_pos hbound] at hnext
      rw [← some.inj hnext, UInt64.toNat_add]
      exact Nat.mod_eq_of_lt hbound
    · rw [if_neg hbound] at hnext
      cases hnext

/-- A renewer that finds these bytes starts with this state. -/
def Opens (authority : Authority) (bytes : Bytes) (state : DurableRenewalState) : Prop :=
  ∀ (w : RenewerState) (outcome : PersistOutcome), w.process = none →
    w.disk.visible = some bytes → w.act authority (.start outcome) =
      some { w with process := some ⟨state, ⟨none⟩, .reconciling, none⟩ }

lemma Acceptable.opens [LawfulJson DurableRenewalState] {authority : Authority}
    {state : DurableRenewalState}
    (hempty : (Json.fromSlice [] : Option DurableRenewalState) = none)
    (hauthority : authority.Checked) (h : Acceptable authority state)
    (hbound : (Json.toVec state).length ≤ maxTrustRenewerStateBytes) :
    Opens authority (Json.toVec state) state := by
  intro w outcome hprocess hvisible
  have hnonempty : (!(Json.toVec state).isEmpty) = true := by
    cases hbytes : Json.toVec state with
    | nil =>
      have hdecoded := LawfulJson.fromSlice_toVec state
      rw [hbytes, hempty] at hdecoded
      cases hdecoded
    | cons byte bytes => rfl
  have hload : load (some (Json.toVec state)) = .ok state := by
    simp only [load, bind_eq_ok_iff, require_eq_ok_iff, decide_eq_true_eq]
    refine ⟨(), hbound, (), hnonempty, ?_⟩
    rw [LawfulJson.fromSlice_toVec]
    rfl
  simp only [RenewerState.act, hprocess, openEngine, hvisible, hload, h.validate hauthority,
    startEngine, h.loaded]

variable [LawfulEd25519] [LawfulBase64] [LawfulSha256] [LawfulJson ServiceTrustSnapshot]
  [LawfulJson DurableRenewalState] [Json EncodedRenewalTemplate]

/-- One content of the file after the other: the committed generation never decreases and keeps
its digest, a pending renewal is the next one, and a renewer with this configuration starts again
from the content. The process has in memory what is in the file. A step that meets a policy that
contradicts the state publishes nothing and keeps the renewals. -/
theorem renewer_keeps_durable_state {config : RenewerConfig} {authority : Authority}
    {w : RenewerState} (hempty : (Json.fromSlice [] : Option DurableRenewalState) = none)
    (hauthority : config.authority = .ok authority)
    (h : (renewerSystem config).Reachable w) :
    (w.disk.history.Pairwise fun content later =>
      CommittedKept (decodeFile content) (decodeFile later)) ∧
    (∀ bytes, some bytes ∈ w.disk.history → ∃ state, Json.fromSlice bytes = some state ∧
      PendingIsNext state ∧ Opens authority bytes state) ∧
    (∀ engine, w.process = some engine → decodeFile w.disk.visible = some engine.state) ∧
    ∀ involved : Set Bytes,
      (∀ a ∈ involved, ∀ b ∈ involved, Sha256.digest a = Sha256.digest b → a = b) →
      ∀ engine input remote w', w.process = some engine → input.reply = .ok (some remote) →
        Contradicts authority involved engine.state remote →
        w.act authority (.step input) = some w' →
        KeepsRenewals engine.state w.disk w.published w' := by
  obtain ⟨versions, hchain, hprocess⟩ := tracked_of_reachable hauthority h
  have hchecked := Authority.checked_of_config hauthority
  have hdecode (content : Option DurableRenewalState) :
      decodeFile (encodeFile content) = content := by
    cases content with
    | none => rfl
    | some state => exact LawfulJson.fromSlice_toVec state
  have hlinked {state : DurableRenewalState} (hmem : some state ∈ versions.history) :
      Linked state := (hchain.rooted _ hmem).linked
  refine ⟨?_, fun bytes hmem => ?_, fun engine hengine => ?_,
    fun involved hfree engine input remote w' hengine hreply hcontradicts hact => ?_⟩
  · rw [hchain.disk_eq, Storage.map_history, List.pairwise_map]
    refine hchain.grows.imp_of_mem fun {content later} hmem _ hfollows => ?_
    rw [hdecode, hdecode]
    exact Follows.committedKept (hchain.rooted content hmem) hfollows
  · rw [hchain.disk_eq, Storage.map_history, List.mem_map] at hmem
    obtain ⟨content, hcontent, heq⟩ := hmem
    cases content with
    | none => cases heq
    | some state =>
      obtain rfl := some.inj heq
      have hacceptable : Acceptable authority state :=
        Later.acceptable hchecked (hchain.rooted _ hcontent) (acceptable_emptyState authority)
      exact ⟨state, LawfulJson.fromSlice_toVec state, (hlinked hcontent).pendingIsNext,
        hacceptable.opens hempty hchecked (hchain.bounded _ hcontent state rfl)⟩
  · rw [hchain.disk_eq, Storage.map_visible, hprocess engine hengine]
    exact LawfulJson.fromSlice_toVec engine.state
  · have hmem : some engine.state ∈ versions.history := by
      rw [← hprocess engine hengine]
      exact versions.mem_history versions.visible_mem
    simp only [RenewerState.act, hengine, some.injEq] at hact
    rw [← hact]
    exact keepsRenewals_of_contradicts (s := { w with process := engine }) (hlinked hmem) hfree
      hreply hcontradicts

end Runs

/-- The distributor answers with the policy that is about to be published, in other bytes. -/
def forkedStep : StepInput :=
  { quietStep with
    reply := .ok (some ⟨firstSnapshot, snapshotCodec.put firstSnapshot ++ [10]⟩) }

theorem renewer_keeps_durable_state_forked : ∃ authority w w' engine,
    sampleSystem.Reachable w ∧ w.process = some engine ∧ engine.state.pending.isSome ∧
    sampleAct authority w (.step forkedStep) = some w' ∧
    @KeepsRenewals durableStateCodec.json engine.state w.disk w.published w' := by
  obtain ⟨authority, w, hauthority, hreachable, -, engine, pending, hengine, hpending,
    hgeneration, hbytes⟩ := exists_sampleRun
  obtain ⟨-, -, -, hkeeps⟩ := @renewer_keeps_durable_state checksumEd25519 standardBase64
    checksumSha256 snapshotCodec.json durableStateCodec.json lawful_checksumEd25519
    lawful_standardBase64 lawful_checksumSha256 snapshotCodec.lawful_json
    durableStateCodec.lawful_json templateCodec.json sampleConfig authority w rfl hauthority
    hreachable
  have hact : (sampleAct authority w (.step forkedStep)).isSome := by
    simp [sampleAct, RenewerState.act, hengine]
  obtain ⟨w', hw'⟩ := isSome_iff_exists.mp hact
  refine ⟨authority, w, w', engine, hreachable, hengine, by rw [hpending]; rfl, hw', ?_⟩
  refine hkeeps ∅ (by simp) engine forkedStep _ w' hengine rfl ?_ hw'
  let _ := checksumEd25519
  let _ := standardBase64
  let _ := checksumSha256
  refine Contradicts.pendingFork hpending hgeneration.symm ?_
  rw [hbytes]
  simp

end InferLab.Renewer
