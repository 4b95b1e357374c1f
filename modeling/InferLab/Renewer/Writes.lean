import InferLab.Renewer.Engine
import InferLab.Attempt

/-!
# Trust renewer: what is ever written

`Write` lists the ways in which a step changes the durable state. What holds of every state that
is ever written is then shown along such changes, without another look at the engine.
-/

namespace InferLab.Renewer

open ServiceAuth Wire Option Except

/-! ## States and later states -/

/-- What is kept on the way: the committed renewal gives way only to a newer one, and the pending
one is there until it, or a newer one, is committed. -/
structure Extends (state later : DurableRenewalState) : Prop where
  committed : ∀ committed ∈ state.committed, ∃ committed' ∈ later.committed,
    committed.generation < committed'.generation ∨
    committed.generation = committed'.generation ∧
      committed.snapshotSha256 = committed'.snapshotSha256
  pending : ∀ pending ∈ state.pending,
    (∃ pending' ∈ later.pending, pending.generation = pending'.generation ∧
      pending.exactSnapshotJson = pending'.exactSnapshotJson) ∨
    ∃ committed' ∈ later.committed, pending.generation ≤ committed'.generation

lemma Extends.refl (state : DurableRenewalState) : Extends state state :=
  ⟨fun committed h => ⟨committed, h, .inr ⟨rfl, rfl⟩⟩,
    fun pending h => .inl ⟨pending, h, rfl, rfl⟩⟩

lemma Extends.trans {a b c : DurableRenewalState} (hab : Extends a b) (hbc : Extends b c) :
    Extends a c where
  committed x hx := by
    obtain ⟨y, hy, hxy⟩ := hab.committed x hx
    obtain ⟨z, hz, hyz⟩ := hbc.committed y hy
    refine ⟨z, hz, ?_⟩
    rcases hxy with hlt | ⟨heq, hsame⟩
    · left
      rcases hyz with hlt' | ⟨heq', -⟩
      · exact UInt64.lt_trans hlt hlt'
      · exact heq' ▸ hlt
    · rcases hyz with hlt' | ⟨heq', hsame'⟩
      · exact .inl (heq ▸ hlt')
      · exact .inr ⟨heq.trans heq', hsame.trans hsame'⟩
  pending p hp := by
    rcases hab.pending p hp with ⟨q, hq, hgeneration, hbytes⟩ | ⟨y, hy, hle⟩
    · rcases hbc.pending q hq with ⟨r, hr, hgeneration', hbytes'⟩ | ⟨z, hz, hle⟩
      · exact .inl ⟨r, hr, hgeneration.trans hgeneration', hbytes.trans hbytes'⟩
      · exact .inr ⟨z, hz, hgeneration ▸ hle⟩
    · obtain ⟨z, hz, hyz⟩ := hbc.committed y hy
      refine .inr ⟨z, hz, UInt64.le_trans hle ?_⟩
      rcases hyz with hlt | ⟨heq, -⟩
      · exact UInt64.le_of_lt hlt
      · exact heq ▸ UInt64.le_refl _

lemma lt_of_nextGeneration {committed : CommittedRenewal} {generation : UInt64}
    (h : nextGeneration (some committed) = some generation) :
    committed.generation < generation := by
  simp only [nextGeneration] at h
  by_cases hbound : committed.generation.toNat + 1 < 2 ^ 64
  · rw [if_pos hbound] at h
    obtain rfl := some.inj h
    rw [UInt64.lt_iff_toNat_lt, UInt64.toNat_add]
    have hone : (1 : UInt64).toNat = 1 := rfl
    omega
  · rw [if_neg hbound] at h
    cases h

variable {snapshot : ServiceTrustSnapshot}

/-- What a staged renewal says. -/
theorem generation_of_signNext [Ed25519] [Base64] {template : RenewalTemplate}
    {committed : Option CommittedRenewal} {issuedAtMs : UInt64} {timing : RenewalTimingConfig}
    {signer : ServiceTrustRootSigningIdentity}
    (h : template.signNext (committed.map CommittedRenewal.generation) issuedAtMs timing signer =
      .ok snapshot) : nextGeneration committed = some snapshot.policy.generation := by
  have hgeneration := (RenewalTemplate.SignedNext.of_signNext h).generation
  cases committed with
  | none => exact congrArg some (ok.inj hgeneration)
  | some committed =>
    simp only [map_some, RenewalTemplate.nextGeneration] at hgeneration
    by_cases hbound : committed.generation.toNat + 1 < 2 ^ 64
    · rw [if_pos hbound] at hgeneration
      rw [nextGeneration, if_pos hbound, ok.inj hgeneration]
    · rw [if_neg hbound] at hgeneration
      cases hgeneration

lemma of_fromSnapshot [Sha256] [Json ServiceTrustSnapshot] {lateRecovery : Bool}
    {pending : PendingRenewal}
    (h : PendingRenewal.fromSnapshot snapshot lateRecovery = .ok pending) :
    pending.validate = .ok () ∧ pending.generation = snapshot.policy.generation := by
  obtain ⟨_, _, h⟩ := of_bind h
  cases hexpires : snapshot.policy.expiresAtMs with
  | none =>
    simp only [hexpires] at h
    cases h
  | some expiresAtMs =>
    simp only [hexpires] at h
    obtain ⟨_, hvalid, h⟩ := of_bind h
    obtain rfl := ok.inj h
    exact ⟨hvalid, rfl⟩

/-- The bytes of a staged renewal are those of the policy. -/
theorem snapshot_of_fromSnapshot [Sha256] [Json ServiceTrustSnapshot]
    [LawfulJson ServiceTrustSnapshot] {lateRecovery : Bool} {pending : PendingRenewal}
    (h : PendingRenewal.fromSnapshot snapshot lateRecovery = .ok pending) :
    pending.snapshot = .ok snapshot := by
  have hvalid := (of_fromSnapshot h).1
  obtain ⟨_, _, h⟩ := of_bind h
  cases hexpires : snapshot.policy.expiresAtMs with
  | none =>
    simp only [hexpires] at h
    cases h
  | some expiresAtMs =>
    simp only [hexpires] at h
    obtain ⟨_, _, h⟩ := of_bind h
    obtain rfl := ok.inj h
    rw [PendingRenewal.snapshot, bind_eq_ok_iff]
    refine ⟨(), hvalid, ?_⟩
    simp only [LawfulJson.fromSlice_toVec]
    rfl

/-! ## Changes -/

section Writes

variable [Ed25519] [Base64] [Sha256] [Json ServiceTrustSnapshot]

/-- A policy of the distributor that a state may be committed to: it is not older than what is
pending, or committed, and it is that one if it is as old. -/
structure Committable (state : DurableRenewalState) (remote : DistributorSnapshot) : Prop where
  pending : ∀ pending ∈ state.pending, pending.generation ≤ remote.snapshot.policy.generation
  committed : state.pending = none → ∀ committed ∈ state.committed,
    committed.generation < remote.snapshot.policy.generation ∨
    committed.generation = remote.snapshot.policy.generation ∧
      committed.snapshotSha256 = sha256Hex remote.exactBytes

/-- One change of the durable state. -/
inductive Write (authority : Authority) (state : DurableRenewalState) : DurableRenewalState → Prop
  | count (counters : RenewalCounters) : Write authority state { state with counters := counters }
  | attempt {pending : PendingRenewal} (lateRecovery : Bool) (counters : RenewalCounters) :
      state.pending = some pending →
      Write authority state { state with
        pending := some { pending with lateRecovery := lateRecovery }, counters := counters }
  | commit {remote : DistributorSnapshot} {effectiveNowMs expiresAtMs : UInt64}
      (counters : RenewalCounters) :
      authority.verifyRemote remote.snapshot effectiveNowMs = .ok () →
      remote.snapshot.policy.expiresAtMs = some expiresAtMs → Committable state remote →
      Write authority state { state with
        committed := some (remote.record expiresAtMs), pending := none, counters := counters }
  | refresh {remote : DistributorSnapshot} {effectiveNowMs expiresAtMs : UInt64}
      {committed : CommittedRenewal} :
      authority.verifyRemote remote.snapshot effectiveNowMs = .ok () →
      remote.snapshot.policy.expiresAtMs = some expiresAtMs → state.committed = some committed →
      Write authority state { state with committed := some { committed with
        issuedAtMs := remote.snapshot.policy.issuedAtMs, expiresAtMs := expiresAtMs } }
  | stage {snapshot : ServiceTrustSnapshot} {pending : PendingRenewal}
      {issuedAtMs : UInt64} {lateRecovery : Bool} : state.pending = none →
      authority.template.signNext (state.committed.map CommittedRenewal.generation) issuedAtMs
        authority.timing authority.signer = .ok snapshot →
      PendingRenewal.fromSnapshot snapshot lateRecovery = .ok pending →
      Write authority state { state with pending := some pending }

/-- `later` has come from `state` by such changes. -/
def Later (authority : Authority) : DurableRenewalState → DurableRenewalState → Prop :=
  Relation.ReflTransGen (Write authority)

/-- The pending renewal is the next one, and the record fits its bytes. -/
def Linked (state : DurableRenewalState) : Prop := state.validatePending = .ok ()

omit [Ed25519] [Base64] in
lemma linked_iff {state : DurableRenewalState} :
    Linked state ↔ ∀ pending ∈ state.pending, pending.validate = .ok () ∧
      nextGeneration state.committed = some pending.generation := by
  unfold Linked DurableRenewalState.validatePending
  cases hpending : state.pending with
  | none => exact iff_of_true rfl fun pending h => absurd h (not_mem_none _)
  | some pending =>
    simp only [bind_eq_ok_iff, require_eq_ok_iff, beq_iff_eq, mem_some_iff, forall_eq']
    exact ⟨fun ⟨_, hvalid, hnext⟩ => ⟨hvalid, hnext⟩, fun ⟨hvalid, hnext⟩ => ⟨(), hvalid, hnext⟩⟩

variable {authority : Authority} {state next : DurableRenewalState}

lemma Write.linked (h : Write authority state next) (hlinked : Linked state) : Linked next := by
  rw [linked_iff] at hlinked ⊢
  cases h with
  | count counters => exact hlinked
  | @attempt pending lateRecovery counters hpending =>
    rintro _ ⟨rfl⟩
    exact hlinked pending hpending
  | commit counters hverified hexpires hcommittable =>
    exact fun pending h => absurd h (not_mem_none _)
  | refresh hverified hexpires hcommitted =>
    intro pending hpending
    obtain ⟨hvalid, hnext⟩ := hlinked pending hpending
    rw [hcommitted] at hnext
    exact ⟨hvalid, hnext⟩
  | @stage snapshot pending issuedAtMs lateRecovery hnone hsigned hpending =>
    rintro _ ⟨rfl⟩
    obtain ⟨hvalid, hgeneration⟩ := of_fromSnapshot hpending
    rw [hgeneration]
    exact ⟨hvalid, generation_of_signNext hsigned⟩

lemma Write.extends (h : Write authority state next) (hlinked : Linked state) :
    Extends state next := by
  rw [linked_iff] at hlinked
  cases h with
  | count counters => exact ⟨(Extends.refl state).committed, (Extends.refl state).pending⟩
  | @attempt pending lateRecovery counters hpending =>
    refine ⟨(Extends.refl state).committed, fun old hold => .inl ⟨_, rfl, ?_⟩⟩
    obtain rfl : pending = old := some.inj (hpending.symm.trans hold)
    exact ⟨rfl, rfl⟩
  | @commit remote _ expiresAtMs counters hverified hexpires hcommittable =>
    refine ⟨fun committed hcommitted => ⟨_, rfl, ?_⟩,
      fun pending hpending => .inr ⟨_, rfl, hcommittable.pending pending hpending⟩⟩
    cases hpending : state.pending with
    | none => exact hcommittable.committed hpending committed hcommitted
    | some pending =>
      -- the pending renewal is newer than the committed one
      obtain ⟨-, hnext⟩ := hlinked pending hpending
      rw [show state.committed = some committed from hcommitted] at hnext
      exact .inl (UInt64.lt_of_lt_of_le (lt_of_nextGeneration hnext)
        (hcommittable.pending pending hpending))
  | @refresh remote _ expiresAtMs committed hverified hexpires hcommitted =>
    refine ⟨fun old hold => ⟨_, rfl, .inr ?_⟩,
      fun pending hpending => .inl ⟨pending, hpending, rfl, rfl⟩⟩
    obtain rfl : committed = old := some.inj (hcommitted.symm.trans hold)
    exact ⟨rfl, rfl⟩
  | @stage snapshot pending issuedAtMs lateRecovery hnone hsigned hpending =>
    refine ⟨(Extends.refl state).committed, fun old hold => ?_⟩
    exact absurd (hnone.symm.trans hold) (by simp)

lemma Later.linked (h : Later authority state next) (hlinked : Linked state) : Linked next := by
  induction h with
  | refl => exact hlinked
  | tail _ hlast ih => exact hlast.linked ih

lemma Later.extends (h : Later authority state next) (hlinked : Linked state) :
    Extends state next := by
  induction h with
  | refl => exact Extends.refl state
  | tail hfirst hlast ih => exact ih.trans (hlast.extends (Later.linked hfirst hlinked))

/-! ## Reconciliation -/

lemma write_of_reconcileRemoteFloor {remote : DistributorSnapshot}
    {effectiveNowMs expiresAtMs : UInt64}
    (hverified : authority.verifyRemote remote.snapshot effectiveNowMs = .ok ())
    (hexpires : remote.snapshot.policy.expiresAtMs = some expiresAtMs)
    (h : state.reconcileRemoteFloor (remote.record expiresAtMs) = .ok (some next)) :
    Write authority state next := by
  unfold DurableRenewalState.reconcileRemoteFloor at h
  cases hcommitted : state.committed with
  | none =>
    simp only [hcommitted] at h
    split at h <;> cases h
  | some committed =>
    simp only [hcommitted] at h
    obtain ⟨hlt, h⟩ := of_ite_eq h nofun
    by_cases heq : (remote.record expiresAtMs).generation = committed.generation
    · rw [if_pos heq] at h
      obtain ⟨hfork, h⟩ := of_ite_eq h nofun
      by_cases htimes : (remote.record expiresAtMs).issuedAtMs ≠ committed.issuedAtMs ∨
          (remote.record expiresAtMs).expiresAtMs ≠ committed.expiresAtMs
      · rw [if_pos htimes] at h
        obtain rfl := some.inj (ok.inj h)
        exact .refresh hverified hexpires hcommitted
      · rw [if_neg htimes] at h
        cases h
    · rw [if_neg heq] at h
      cases h

/-- What is saved for a policy of the distributor is a change of the listed kinds. -/
theorem write_of_reconciled {remote : DistributorSnapshot} {effectiveNowMs expiresAtMs : UInt64}
    (hverified : authority.verifyRemote remote.snapshot effectiveNowMs = .ok ())
    (hexpires : remote.snapshot.policy.expiresAtMs = some expiresAtMs)
    (h : state.reconciled remote expiresAtMs = .ok (some next)) : Write authority state next := by
  have hcommit : Committable state remote → ∀ automaticSuccess lateRecovery,
      (.ok (some (state.commitSnapshot (remote.record expiresAtMs) automaticSuccess
        lateRecovery)) : Except RenewerErrorKind _) = .ok (some next) →
      Write authority state next := by
    intro hcommittable automaticSuccess lateRecovery heq
    obtain rfl := some.inj (ok.inj heq)
    exact .commit _ hverified hexpires hcommittable
  unfold DurableRenewalState.reconciled at h
  cases hpending : state.pending with
  | some pending =>
    have hcommittable : pending.generation ≤ (remote.record expiresAtMs).generation →
        Committable state remote := by
      refine fun hle => ⟨fun old hold => ?_, fun hnone => ?_⟩
      · obtain rfl : pending = old := some.inj (hpending.symm.trans hold)
        exact hle
      · exact absurd (hpending.symm.trans hnone) (by simp)
    simp only [hpending] at h
    by_cases heq : (remote.record expiresAtMs).generation = pending.generation
    · rw [if_pos heq] at h
      obtain ⟨-, h⟩ := of_ite_eq h nofun
      exact hcommit (hcommittable (heq ▸ UInt64.le_refl _)) _ _ h
    rw [if_neg heq] at h
    by_cases hlt : pending.generation < (remote.record expiresAtMs).generation
    · rw [if_pos hlt] at h
      exact hcommit (hcommittable (UInt64.le_of_lt hlt)) _ _ h
    · rw [if_neg hlt] at h
      exact write_of_reconcileRemoteFloor hverified hexpires h
  | none =>
    have hnothing : ∀ pending ∈ state.pending,
        pending.generation ≤ remote.snapshot.policy.generation := by
      rw [hpending]
      exact fun pending h => absurd h (not_mem_none _)
    cases hcommitted : state.committed with
    | none =>
      simp only [hpending, hcommitted] at h
      refine hcommit ⟨hnothing, fun _ => ?_⟩ _ _ h
      rw [hcommitted]
      exact fun committed h => absurd h (not_mem_none _)
    | some committed =>
      have hcommittable : committed.generation < (remote.record expiresAtMs).generation ∨
          committed.generation = (remote.record expiresAtMs).generation ∧
            committed.snapshotSha256 = (remote.record expiresAtMs).snapshotSha256 →
          Committable state remote := by
        refine fun hnewer => ⟨hnothing, fun _ old hold => ?_⟩
        obtain rfl : committed = old := some.inj (hcommitted.symm.trans hold)
        exact hnewer
      simp only [hpending, hcommitted] at h
      obtain ⟨hlt, h⟩ := of_ite_eq h nofun
      by_cases heq : (remote.record expiresAtMs).generation = committed.generation
      · rw [if_pos heq] at h
        obtain ⟨hfork, h⟩ := of_ite_eq h nofun
        by_cases htimes : (remote.record expiresAtMs).issuedAtMs ≠ committed.issuedAtMs ∨
            (remote.record expiresAtMs).expiresAtMs ≠ committed.expiresAtMs
        · rw [if_pos htimes] at h
          have hsame := (not_not.mp hfork).symm
          exact hcommit (hcommittable (.inr ⟨heq.symm, hsame⟩)) _ _ h
        · rw [if_neg htimes] at h
          cases h
      · rw [if_neg heq] at h
        have hnewer := UInt64.lt_of_le_of_ne (UInt64.not_lt.mp hlt) (Ne.symm heq)
        exact hcommit (hcommittable (.inl hnewer)) _ _ h

end Writes

end InferLab.Renewer
