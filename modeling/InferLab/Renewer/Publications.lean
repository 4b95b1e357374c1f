import InferLab.Renewer.Runs
import InferLab.ServiceAuth.Codecs

/-!
# Trust renewer: one policy for each generation

The renewer signs a policy with the time at which it does so, so signing again would give another
policy. It never does for a generation that it may have published.
-/

namespace InferLab.Renewer

open ServiceAuth Wire Option

variable [Ed25519] [Base64] [Sha256] [Json ServiceTrustSnapshot] [Json DurableRenewalState]
  {authority : Authority}

section Pending

omit [Json DurableRenewalState] [Ed25519] [Base64]

/-- A valid record says what its bytes say. -/
theorem PendingRenewal.exists_snapshot {pending : PendingRenewal}
    (h : pending.validate = .ok ()) :
    ∃ snapshot, Json.fromSlice pending.exactSnapshotJson = some snapshot ∧
      pending.fits snapshot = true := by
  obtain ⟨_, _, h⟩ := of_bind h
  cases hdecoded : (Json.fromSlice pending.exactSnapshotJson : Option ServiceTrustSnapshot) with
  | none =>
    simp only [hdecoded] at h
    cases h
  | some snapshot =>
    simp only [hdecoded] at h
    exact ⟨snapshot, rfl, of_require h⟩

end Pending

omit [Json DurableRenewalState] in
/-- Of two states with a pending renewal, the later one has the same or a newer one. -/
theorem Later.pending {state later : DurableRenewalState} (h : Later authority state later)
    (hlinked : Linked state) {pending pending' : PendingRenewal}
    (hpending : state.pending = some pending) (hpending' : later.pending = some pending') :
    pending.generation < pending'.generation ∨
      pending.generation = pending'.generation ∧
        pending.exactSnapshotJson = pending'.exactSnapshotJson := by
  rcases (h.extends hlinked).pending pending hpending with
    ⟨found, hfound, hsame⟩ | ⟨committed, hcommitted, hle⟩
  · rw [some.inj (hpending'.symm.trans hfound)]
    exact .inr hsame
  · obtain ⟨-, hnext⟩ := linked_iff.mp (h.linked hlinked) pending' hpending'
    rw [show later.committed = some committed from hcommitted] at hnext
    exact .inl (UInt64.lt_of_le_of_lt hle (lt_of_nextGeneration hnext))

/-- A publication carries the policy of the pending renewal that was saved before. -/
theorem Publication.Genuine.exists_snapshot {publication : Publication}
    (h : publication.Genuine) (hrooted : Follows authority none publication.saved) :
    ∃ state pending, ∃ snapshot : ServiceTrustSnapshot, publication.saved = some state ∧
      Linked state ∧ state.pending = some pending ∧
      pending.exactSnapshotJson = publication.exactBytes ∧
      Json.fromSlice publication.exactBytes = some snapshot ∧
      snapshot.policy.generation = pending.generation ∧
      snapshot.policy.issuedAtMs ≤ publication.effectiveNowMs ∧
      ∃ expiresAtMs, snapshot.policy.expiresAtMs = some expiresAtMs ∧
        publication.effectiveNowMs < expiresAtMs := by
  obtain ⟨state, hstate, pending, hpending, hbytes, hissued, hexpires⟩ := h.pending
  rw [show publication.saved = some state from hstate] at hrooted
  have hlinked := hrooted.linked
  obtain ⟨snapshot, hdecoded, hfits⟩ :=
    (linked_iff.mp hlinked pending hpending).1 |> PendingRenewal.exists_snapshot
  simp only [PendingRenewal.fits, Bool.and_eq_true, beq_iff_eq] at hfits
  obtain ⟨⟨⟨-, hgeneration⟩, hissued'⟩, hexpires'⟩ := hfits
  refine ⟨state, pending, snapshot, hstate, hlinked, hpending, hbytes, hbytes ▸ hdecoded,
    hgeneration, hissued' ▸ hissued, pending.expiresAtMs, hexpires', hexpires⟩

/-! ## Runs -/

section Runs

variable [LawfulJson DurableRenewalState] [Json EncodedRenewalTemplate] {config : RenewerConfig}
  {w w' : RenewerState}

/-- A step that is not a start. -/
def StepWithoutStart (config : RenewerConfig) (w w' : RenewerState) : Prop :=
  ∃ authority action, config.authority = .ok authority ∧ (∀ outcome, action ≠ .start outcome) ∧
    w.act authority action = some w'

/-- No process is left that would publish. -/
def RenewerState.Closed (w : RenewerState) : Prop :=
  ∀ engine ∈ w.process, engine.phase = .failedClosed

omit [LawfulJson DurableRenewalState] in
lemma RenewerState.Closed.step (h : w.Closed) (hstep : StepWithoutStart config w w') :
    w'.Closed ∧ w'.published = w.published := by
  obtain ⟨authority, action, -, hnot, hact⟩ := hstep
  cases action with
  | start outcome => exact absurd rfl (hnot outcome)
  | step input =>
    cases hprocess : w.process with
    | none => simp [RenewerState.act, hprocess] at hact
    | some engine =>
      have hclosed := h engine hprocess
      simp only [RenewerState.act, hprocess, stepEngine, hclosed, if_true, some.injEq]
        at hact
      rw [← hact]
      refine ⟨fun found hfound => ?_, rfl⟩
      rw [← some.inj hfound]
      exact hclosed
  | crash =>
    obtain rfl := some.inj hact
    exact ⟨fun engine hengine => absurd hengine (not_mem_none _), rfl⟩
  | losePower kept =>
    obtain rfl := some.inj hact
    exact ⟨fun engine hengine => absurd hengine (not_mem_none _), rfl⟩

omit [LawfulJson DurableRenewalState] in
lemma RenewerState.Closed.steps (h : w.Closed)
    (hsteps : Relation.ReflTransGen (StepWithoutStart config) w w') :
    w'.Closed ∧ w'.published = w.published := by
  induction hsteps with
  | refl => exact ⟨h, rfl⟩
  | tail _ hlast ih =>
    obtain ⟨hclosed, hpublished⟩ := ih
    obtain ⟨hclosed', hpublished'⟩ := hclosed.step hlast
    exact ⟨hclosed', hpublished'.trans hpublished⟩

omit [LawfulJson DurableRenewalState] in
/-- Without a valid configuration nothing happens. -/
theorem published_of_error {error : EngineBootstrapError} (herror : config.authority = .error error)
    (h : (renewerSystem config).Reachable w) : w.published = [] := by
  refine h.invariant (I := fun s => s.published = []) (fun s hinit => ?_) fun s s' _ hstep => ?_
  · rw [show s = _ from hinit]
  · obtain ⟨authority, action, hauthority, -⟩ := hstep
    rw [herror] at hauthority
    cases hauthority

/-- Bytes that may be published after `p`: a newer policy, or the very same bytes. -/
def Publication.Precedes (p q : Publication) : Prop :=
  ∀ snapshot ∈ (Json.fromSlice p.exactBytes : Option ServiceTrustSnapshot),
    ∀ snapshot' ∈ (Json.fromSlice q.exactBytes : Option ServiceTrustSnapshot),
      snapshot.policy.generation ≤ snapshot'.policy.generation ∧
      (snapshot.policy.generation = snapshot'.policy.generation → p.exactBytes = q.exactBytes)

/-- What is certain to be in the file is a state with these bytes as its pending renewal. -/
def Publication.Staged (publication : Publication) : Prop :=
  publication.disk.unsynced = [] ∧
    ∃ state pending, decodeFile publication.disk.durable = some state ∧
      state.pending = some pending ∧ pending.exactSnapshotJson = publication.exactBytes

/-- The bytes are a policy that is valid at the time. -/
def Publication.Current (publication : Publication) : Prop :=
  ∃ snapshot : ServiceTrustSnapshot, ∃ expiresAtMs,
    Json.fromSlice publication.exactBytes = some snapshot ∧
    snapshot.policy.expiresAtMs = some expiresAtMs ∧
    snapshot.policy.issuedAtMs ≤ publication.effectiveNowMs ∧
    publication.effectiveNowMs < expiresAtMs

omit [LawfulJson DurableRenewalState] [Json EncodedRenewalTemplate] in
lemma Publication.precedes_of_follows {p q : Publication}
    (hp : p.Genuine) (hprooted : Follows authority none p.saved)
    (hq : q.Genuine) (hqrooted : Follows authority none q.saved)
    (h : Follows authority p.saved q.saved) : p.Precedes q := by
  obtain ⟨state, pending, snapshot, hsaved, hlinked, hpending, hbytes, hdecoded, hgeneration, -⟩ :=
    hp.exists_snapshot hprooted
  obtain ⟨state', pending', snapshot', hsaved', -, hpending', hbytes', hdecoded', hgeneration',
    -⟩ := hq.exists_snapshot hqrooted
  intro found hfound found' hfound'
  rw [← some.inj (hdecoded.symm.trans hfound),
    ← some.inj (hdecoded'.symm.trans hfound'), hgeneration, hgeneration', ← hbytes, ← hbytes']
  rw [hsaved, hsaved'] at h
  rcases Later.pending h hlinked hpending hpending' with hlt | ⟨heq, hsame⟩
  · exact ⟨UInt64.le_of_lt hlt, fun heq => absurd heq (UInt64.ne_of_lt hlt)⟩
  · exact ⟨heq ▸ UInt64.le_refl _, fun _ => hsame⟩

/-- Whatever replies, readings of the clock, failed saves, crashes and losses of power there are:
for one generation only one policy is ever published, newer ones follow older ones, each was
certain to be in the file before and is valid, and a process that has failed closed publishes
nothing. -/
theorem renewer_never_equivocates (h : (renewerSystem config).Reachable w) :
    w.published.Pairwise Publication.Precedes ∧
    (∀ publication ∈ w.published, publication.Staged ∧ publication.Current) ∧
    ∀ engine, w.process = some engine → engine.phase = .failedClosed →
      ∀ w', Relation.ReflTransGen (StepWithoutStart config) w w' → w'.published = w.published := by
  have hchain : w.published = [] ∨
      ∃ authority versions, Chain authority versions w.disk w.published := by
    cases hauthority : config.authority with
    | error error => exact .inl (published_of_error hauthority h)
    | ok authority =>
      obtain ⟨versions, hchain, -⟩ := tracked_of_reachable hauthority h
      exact .inr ⟨authority, versions, hchain⟩
  refine ⟨?_, ?_, fun engine hprocess hphase w' hsteps => ?_⟩
  · rcases hchain with hnil | ⟨authority, versions, hchain⟩
    · rw [hnil]
      exact List.Pairwise.nil
    · refine hchain.ordered.imp_of_mem fun {p q} hp hq hfollows => ?_
      exact Publication.precedes_of_follows (hchain.genuine p hp) (hchain.saved_rooted p hp)
        (hchain.genuine q hq) (hchain.saved_rooted q hq) hfollows
  · intro publication hmem
    rcases hchain with hnil | ⟨authority, versions, hchain⟩
    · exact absurd (hnil ▸ hmem) List.not_mem_nil
    · have hgenuine := hchain.genuine publication hmem
      obtain ⟨state, pending, snapshot, hsaved, -, hpending, hbytes, hdecoded, -, hissued,
        expiresAtMs, hexpires, hlt⟩ :=
        hgenuine.exists_snapshot (hchain.saved_rooted publication hmem)
      exact ⟨⟨hgenuine.synced, state, pending, hsaved, hpending, hbytes⟩,
        snapshot, expiresAtMs, hdecoded, hexpires, hissued, hlt⟩
  · refine (RenewerState.Closed.steps (fun found hfound => ?_) hsteps).2
    rw [← some.inj (hprocess.symm.trans hfound)]
    exact hphase

end Runs

end InferLab.Renewer

/-! ## A run -/

namespace InferLab.Renewer

open ServiceAuth Codec

def committedCodec : Codec CommittedRenewal :=
  (u64.pair (u64.pair (u64.pair string))).map
    (fun c => (c.generation, c.issuedAtMs, c.expiresAtMs, c.snapshotSha256))
    (fun (a, b, c, d) => ⟨a, b, c, d⟩) fun _ => rfl

def pendingCodec : Codec PendingRenewal :=
  (u64.pair (u64.pair (u64.pair (string.pair ((list byte).pair bool))))).map
    (fun p => (p.generation, p.issuedAtMs, p.expiresAtMs, p.snapshotSha256, p.exactSnapshotJson,
      p.lateRecovery))
    (fun (a, b, c, d, e, f) => ⟨a, b, c, d, e, f⟩) fun _ => rfl

def countersCodec : Codec RenewalCounters :=
  (u64.pair (u64.pair (u64.pair (u64.pair u64)))).map
    (fun c => (c.attempts, c.successfulRenewals, c.transientFailures, c.rejectedStates,
      c.lateRecoveries))
    (fun (a, b, c, d, e) => ⟨a, b, c, d, e⟩) fun _ => rfl

def durableStateCodec : Codec DurableRenewalState :=
  (string.pair (string.pair (string.pair ((option committedCodec).pair
    ((option pendingCodec).pair countersCodec))))).map
    (fun s => (s.schema, s.authorityFingerprint, s.templateFingerprint, s.committed, s.pending,
      s.counters))
    (fun (a, b, c, d, e, f) => ⟨a, b, c, d, e, f⟩) fun _ => rfl

def sampleConfig : RenewerConfig where
  clusterId := "c"
  templateFile := templateCodec.put nodeTemplate
  timing := ⟨99000, 1000, 10, 10, 10⟩
  rootKeyId := "r"
  rootSeed := ServiceAuth.rootSeed

/-- The distributor has no policy; every save succeeds. -/
def quietStep : StepInput where
  firstClock := some 1000
  reply := .ok none
  secondClock := some 1000
  reconcileSave := .saved
  stageSave := .saved
  publishClock := some 1000
  attemptSave := .saved
  publishReply := some (.ok .accepted)
  transientSave := .saved
  failureSave := .saved

@[reducible]
def sampleAuthority : Except EngineBootstrapError Authority :=
  @RenewerConfig.authority checksumEd25519 standardBase64 checksumSha256 templateCodec.json
    sampleConfig

@[reducible]
def sampleAct (authority : Authority) : RenewerState → RenewerAction → Option RenewerState :=
  @RenewerState.act durableStateCodec.json checksumEd25519 standardBase64 checksumSha256
    snapshotCodec.json authority

@[reducible]
def sampleSystem : System RenewerState :=
  @renewerSystem durableStateCodec.json checksumEd25519 standardBase64 checksumSha256
    snapshotCodec.json templateCodec.json sampleConfig

/-- A policy is staged and published, and once more since the distributor does not show it. -/
theorem sampleRun : (sampleAuthority.toOption.bind fun authority =>
    ([.start .saved, .step quietStep, .step quietStep, .step quietStep].foldlM (sampleAct authority)
      ⟨⟨[], none, []⟩, none, []⟩).map fun w => (w.published.map Publication.exactBytes,
        w.process.map fun engine => engine.state.pending.map fun pending =>
          (pending.generation, pending.exactSnapshotJson))) =
    some ([snapshotCodec.put firstSnapshot, snapshotCodec.put firstSnapshot],
      some (some (1, snapshotCodec.put firstSnapshot))) := by
  decide +kernel

lemma exists_sampleRun : ∃ authority w, sampleAuthority = .ok authority ∧
    sampleSystem.Reachable w ∧
    w.published.map Publication.exactBytes =
      [snapshotCodec.put firstSnapshot, snapshotCodec.put firstSnapshot] ∧
    ∃ engine pending, w.process = some engine ∧ engine.state.pending = some pending ∧
      pending.generation = 1 ∧ pending.exactSnapshotJson = snapshotCodec.put firstSnapshot := by
  obtain ⟨authority, hauthority, hrun⟩ := Option.bind_eq_some_iff.mp sampleRun
  obtain ⟨w, hw, hsummary⟩ := Option.map_eq_some_iff.mp hrun
  obtain ⟨hpublished, hprocess⟩ := Prod.mk.inj hsummary
  obtain ⟨engine, hengine, hpending⟩ := Option.map_eq_some_iff.mp hprocess
  obtain ⟨pending, hpending, hpair⟩ := Option.map_eq_some_iff.mp hpending
  have hauthority : sampleAuthority = .ok authority := by
    cases hfound : sampleAuthority with
    | error error =>
      rw [hfound] at hauthority
      cases hauthority
    | ok found =>
      rw [hfound] at hauthority
      rw [Option.some.inj hauthority]
  refine ⟨authority, w, hauthority, ⟨_, rfl, ?_⟩, hpublished, engine, pending, hengine, hpending,
    Prod.mk.inj hpair⟩
  exact System.Steps.of_actions (fun s action s' h => ⟨authority, action, hauthority, h⟩) hw

theorem renewer_never_equivocates_published : ∃ w first second, sampleSystem.Reachable w ∧
    w.published = [first, second] ∧
    first.exactBytes = snapshotCodec.put firstSnapshot ∧
    @Publication.Precedes snapshotCodec.json first second ∧
    @Publication.Staged durableStateCodec.json second ∧
    @Publication.Current snapshotCodec.json second := by
  obtain ⟨authority, w, -, hreachable, hpublished, -⟩ := exists_sampleRun
  obtain ⟨first, rest, htwo, hbytes, hrest⟩ := List.map_eq_cons_iff.mp hpublished
  obtain ⟨second, rfl, -⟩ := List.map_eq_singleton_iff.mp hrest
  obtain ⟨hordered, hgenuine, -⟩ := @renewer_never_equivocates checksumEd25519 standardBase64
    checksumSha256 snapshotCodec.json durableStateCodec.json durableStateCodec.lawful_json
    templateCodec.json sampleConfig w hreachable
  obtain ⟨hstaged, hcurrent⟩ := hgenuine second (by simp [htwo])
  rw [htwo, List.pairwise_pair] at hordered
  exact ⟨w, first, second, hreachable, htwo, hbytes, hordered, hstaged, hcurrent⟩

end InferLab.Renewer
