import InferLab.ServiceAuth.Separators
import InferLab.ServiceAuth.Signer
import Mathlib.Data.List.Perm.Subperm

/-!
# Service authentication: handing a signer over

However activations, snapshots and signed requests interleave, the generation of a signer only
grows, a bundle of the same generation changes nothing, and no nonce is used twice
(`signer_handoff`). The counter alone tells nonces apart: it stands behind the last dot of a nonce
and is shared by all snapshots, whatever key they sign with.
-/

namespace InferLab.ServiceAuth

open List Option List

/-! ## Nonces -/

lemma last_eq_of_append {separator : Char} {first first' last last' : List Char}
    (hlast : separator ∉ last) (hlast' : separator ∉ last')
    (h : first ++ separator :: last = first' ++ separator :: last') : last = last' := by
  have hsplit := congrArg (split separator) h
  rw [split_append_separator, split_append_separator, split_eq_singleton hlast,
    split_eq_singleton hlast'] at hsplit
  have hend := congrArg List.getLast? hsplit
  rw [List.getLast?_concat, List.getLast?_concat] at hend
  exact some.inj hend

lemma toList_serviceNonce (processId : UInt32) (issuedAtMs sequence : UInt64) :
    (serviceNonce processId issuedAtMs sequence).toList =
      Nat.toDigits 10 issuedAtMs.toNat ++ '.' :: Nat.toDigits 10 processId.toNat ++
        '.' :: Nat.toDigits 10 sequence.toNat := by
  have hdot : (toString ".").toList = ['.'] := by decide
  unfold serviceNonce
  simp only [String.toList_append, hdot]
  show (Nat.repr issuedAtMs.toNat).toList ++ _ ++ (Nat.repr processId.toNat).toList ++ _ ++
    (Nat.repr sequence.toNat).toList = _
  rw [toList_repr, toList_repr, toList_repr]
  simp

/-- A nonce tells the number of its request. -/
theorem serviceNonce_injective {processId : UInt32}
    {issuedAtMs issuedAtMs' sequence sequence' : UInt64}
    (h : serviceNonce processId issuedAtMs sequence =
      serviceNonce processId issuedAtMs' sequence') : sequence = sequence' := by
  have htext := congrArg String.toList h
  rw [toList_serviceNonce, toList_serviceNonce] at htext
  have hdigits := last_eq_of_append (dot_notMem_toDigits _) (dot_notMem_toDigits _) htext
  exact UInt64.toNat_inj.mp (toDigits_injective hdigits)

/-! ## Credentials -/

namespace SigningCredentials

variable {credentials other : SigningCredentials}

lemma get?_eq_some_iff {credentialId : String} {credential : ServiceSigningCredential} :
    credentials.get? credentialId = some credential ↔
      credential ∈ credentials.entries ∧ credential.credentialId = credentialId := by
  constructor
  · intro h
    exact ⟨mem_of_find?_eq_some h, by simpa using List.find?_some h⟩
  · intro h
    obtain ⟨hmem, rfl⟩ := h
    have hsome : (credentials.get? credential.credentialId).isSome = true :=
      List.find?_isSome.mpr ⟨credential, hmem, beq_self_eq_true _⟩
    obtain ⟨found, hfound⟩ := isSome_iff_exists.mp hsome
    have hid : found.credentialId = credential.credentialId := by
      simpa using List.find?_some hfound
    rw [hfound, inj_on_of_nodup_map credentials.nodup (mem_of_find?_eq_some hfound) hmem hid]

variable [Ed25519]

lemma nodup_publicKeys : credentials.publicKeys.Nodup := by
  apply List.Nodup.of_map Prod.fst
  have hfst : credentials.publicKeys.map Prod.fst =
      credentials.entries.map ServiceSigningCredential.credentialId := by
    rw [publicKeys, List.map_map]
    rfl
  rw [hfst]
  exact credentials.nodup

lemma mem_publicKeys_iff {credentialId : String} {key : Wire.Bytes} :
    (credentialId, key) ∈ credentials.publicKeys ↔
      (credentials.get? credentialId).any (fun current => key == Ed25519.publicKey current.seed) =
        true := by
  rw [Option.any_eq_true]
  constructor
  · intro h
    obtain ⟨current, hcurrent, heq⟩ := mem_map.mp h
    cases heq
    exact ⟨current, get?_eq_some_iff.mpr ⟨hcurrent, rfl⟩, beq_self_eq_true _⟩
  · intro h
    obtain ⟨current, hcurrent, hkey⟩ := h
    obtain ⟨hmem, rfl⟩ := get?_eq_some_iff.mp hcurrent
    exact mem_map.mpr ⟨current, hmem, by rw [eq_of_beq hkey]⟩

/-- As many credentials, all of them found in the other set with their key, are the same set. -/
theorem publicKeys_eq_iff :
    (credentials.entries.length = other.entries.length ∧
      ∀ credential ∈ credentials.entries, (other.get? credential.credentialId).any (fun current =>
        Ed25519.publicKey credential.seed == Ed25519.publicKey current.seed) = true) ↔
    ∀ pair, pair ∈ credentials.publicKeys ↔ pair ∈ other.publicKeys := by
  have hlength : ∀ c : SigningCredentials, c.publicKeys.length = c.entries.length :=
    fun c => length_map _
  constructor
  · intro h
    obtain ⟨hcount, hall⟩ := h
    have hsubset : credentials.publicKeys ⊆ other.publicKeys := by
      intro pair hpair
      obtain ⟨credential, hcredential, rfl⟩ := mem_map.mp hpair
      exact mem_publicKeys_iff.mpr (hall credential hcredential)
    have hperm : credentials.publicKeys.Perm other.publicKeys := by
      apply (nodup_publicKeys.subperm hsubset).perm_of_length_le
      rw [hlength, hlength, hcount]
    exact fun pair => hperm.mem_iff
  · intro h
    have hperm : credentials.publicKeys.Perm other.publicKeys :=
      (perm_ext_iff_of_nodup nodup_publicKeys nodup_publicKeys).mpr h
    refine ⟨?_, ?_⟩
    · rw [← hlength, ← hlength]
      exact hperm.length_eq
    · intro credential hcredential
      exact mem_publicKeys_iff.mp ((h _).mp (mem_map.mpr ⟨credential, hcredential, rfl⟩))

end SigningCredentials

/-! ## Activations -/

section Activations

variable [Ed25519] {state : ServiceSignerState} {candidate : VerifiedServiceSigningBundle}

/-- The contents of a candidate are those of the state. -/
structure VerifiedServiceSigningBundle.SameContents (candidate : VerifiedServiceSigningBundle)
    (state : ServiceSignerState) : Prop where
  clusterId : state.clusterId = some candidate.clusterId
  serviceId : state.serviceId = candidate.serviceId
  activeCredentialId : state.active.credentialId = candidate.activeCredentialId
  publicKeys : ∀ pair, pair ∈ candidate.credentials.publicKeys ↔
    pair ∈ state.credentials.publicKeys

lemma semanticallyMatches_iff (hcluster : state.clusterId.isSome = true) :
    candidate.semanticallyMatches state = true ↔ candidate.SameContents state := by
  obtain ⟨clusterId, hclusterId⟩ := isSome_iff_exists.mp hcluster
  unfold VerifiedServiceSigningBundle.semanticallyMatches
  simp only [Bool.and_eq_true, beq_iff_eq, List.all_eq_true, hclusterId, getD_some]
  constructor
  · intro h
    obtain ⟨⟨⟨⟨hclusters, hservices⟩, hactive⟩, hcount⟩, hall⟩ := h
    exact ⟨by rw [hclusterId, hclusters], hservices.symm, hactive.symm,
      SigningCredentials.publicKeys_eq_iff.mp ⟨hcount, hall⟩⟩
  · intro h
    obtain ⟨hcount, hall⟩ := SigningCredentials.publicKeys_eq_iff.mpr h.publicKeys
    have hclusters := h.clusterId
    rw [hclusterId] at hclusters
    exact ⟨⟨⟨⟨(some.inj hclusters).symm, h.serviceId.symm⟩, h.activeCredentialId.symm⟩,
      hcount⟩, hall⟩

/-- A candidate without an error is one for the signer's cluster and service; it has the contents of
the state, or a later generation. -/
theorem consider_eq_ok {outcome : Option ServiceSignerActivationOutcome}
    (h : state.consider candidate = .ok outcome) :
    state.clusterId = some candidate.clusterId ∧ candidate.serviceId = state.serviceId ∧
      ∃ generation, state.generation = some generation ∧
        (outcome = some .unchanged ∧ candidate.generation = generation ∧
            candidate.SameContents state ∨
          outcome = none ∧ generation < candidate.generation) := by
  obtain ⟨_, hmode, h⟩ := of_bind h
  obtain ⟨_, hcluster, h⟩ := of_bind h
  obtain ⟨_, hservice, h⟩ := of_bind h
  obtain ⟨_, hstale, h⟩ := of_bind h
  obtain ⟨hclusterSome, hgenerationSome⟩ :=
    state.watched (of_decide_eq_true (of_require hmode))
  obtain ⟨clusterId, hclusterId⟩ := isSome_iff_exists.mp hclusterSome
  obtain ⟨generation, hgeneration⟩ := isSome_iff_exists.mp hgenerationSome
  have hclusters : candidate.clusterId = clusterId := by
    simpa [hclusterId] using of_require hcluster
  have hnotStale : ¬ candidate.generation < generation := by
    simpa [hgeneration] using of_require hstale
  rw [hgeneration, getD_some] at h
  refine ⟨by rw [hclusterId, hclusters], by simpa using of_require hservice, generation,
    hgeneration, ?_⟩
  split at h
  · rename_i hequal
    obtain ⟨_, hmatches, h⟩ := of_bind h
    cases h
    exact .inl ⟨rfl, hequal,
      (semanticallyMatches_iff hclusterSome).mp (of_require hmatches)⟩
  · rename_i hdifferent
    cases h
    exact .inr ⟨rfl, UInt64.lt_of_le_of_ne (UInt64.not_lt.mp hnotStale) (Ne.symm hdifferent)⟩

/-- A candidate of the signer's generation with the same contents changes nothing. -/
theorem consider_of_sameContents (hmode : state.mode = .watchedBundle)
    (hgeneration : state.generation = some candidate.generation)
    (h : candidate.SameContents state) : state.consider candidate = .ok (some .unchanged) := by
  obtain ⟨hclusterSome, -⟩ := state.watched hmode
  have hmatches := (semanticallyMatches_iff hclusterSome).mpr h
  unfold ServiceSignerState.consider
  simp [hmode, h.clusterId, h.serviceId, hgeneration, hmatches, require, pure, bind, Except.bind,
    Except.pure]

/-- What an activation may do. -/
structure Activation.Correct (a : Activation) : Prop where
  /-- The generation grows when a bundle is activated. -/
  activated : a.result = .ok .activated →
    ∃ generation, a.before.generation = some generation ∧ generation < a.candidate.generation ∧
      a.after.generation = some a.candidate.generation
  /-- Within a generation a bundle is accepted exactly if it has the same contents. -/
  unchanged : a.before.generation = some a.candidate.generation →
    (a.result = .ok .unchanged ↔ a.candidate.SameContents a.before)
  forked : a.before.generation = some a.candidate.generation →
    ¬ a.candidate.SameContents a.before → ∃ error, a.result = .error error
  /-- Nothing else changes the state. -/
  kept : a.result ≠ .ok .activated → a.after = a.before

/-- An activation that returns before its validator is asked. -/
theorem Activation.Correct.of_consider {result : Except ServiceSigningError
      ServiceSignerActivationOutcome} (hstatic : state.mode = .static → state.generation = none)
    (h : state.consider candidate = result.map some) :
    (Activation.mk state candidate result state).Correct := by
  have hwatched : ∀ {generation}, state.generation = some generation →
      state.mode = .watchedBundle := by
    intro generation hgeneration
    cases hmode : state.mode with
    | static =>
      rw [hstatic hmode] at hgeneration
      cases hgeneration
    | watchedBundle => rfl
  cases result with
  | error error =>
    have hnot : state.generation = some candidate.generation → ¬ candidate.SameContents state := by
      intro hgeneration hsame
      rw [consider_of_sameContents (hwatched hgeneration) hgeneration hsame] at h
      cases h
    constructor
    · intro hresult
      cases hresult
    · intro hgeneration
      exact ⟨fun hresult => (by cases hresult), fun hsame => absurd hsame (hnot hgeneration)⟩
    · exact fun _ _ => ⟨error, rfl⟩
    · exact fun _ => rfl
  | ok outcome =>
    obtain ⟨-, -, generation, -, ⟨houtcome, -, hsame⟩ | ⟨houtcome, -⟩⟩ := consider_eq_ok h
    · obtain rfl := some.inj houtcome
      exact ⟨fun hresult => (by cases hresult), fun _ => ⟨fun _ => hsame, fun _ => rfl⟩,
        fun _ hnot => absurd hsame hnot, fun _ => rfl⟩
    · cases houtcome

section

variable (h : state.consider candidate = .ok none)
include h

/-- A validator is asked about later generations only. -/
theorem generation_lt_of_consider :
    ∃ generation, state.generation = some generation ∧ generation < candidate.generation := by
  obtain ⟨-, -, generation, hgeneration, ⟨houtcome, -⟩ | ⟨-, hlater⟩⟩ := consider_eq_ok h
  · cases houtcome
  · exact ⟨generation, hgeneration, hlater⟩

lemma generation_ne_of_consider : state.generation ≠ some candidate.generation := by
  obtain ⟨generation, hgeneration, hlater⟩ := generation_lt_of_consider h
  intro hequal
  rw [hgeneration] at hequal
  exact absurd hlater (some.inj hequal ▸ UInt64.lt_irrefl _)

/-- An activation whose validator has accepted the candidate. -/
theorem Activation.Correct.of_accepted :
    (Activation.mk state candidate (.ok .activated) (state.install candidate)).Correct := by
  have hother := generation_ne_of_consider h
  obtain ⟨generation, hgeneration, hlater⟩ := generation_lt_of_consider h
  exact ⟨fun _ => ⟨generation, hgeneration, hlater, rfl⟩, fun hequal => absurd hequal hother,
    fun hequal => absurd hequal hother, fun hresult => absurd rfl hresult⟩

/-- An activation whose validator has rejected the candidate. -/
theorem Activation.Correct.of_rejected :
    (Activation.mk state candidate (.error .candidateRejected) state).Correct := by
  have hother := generation_ne_of_consider h
  exact ⟨fun hresult => (by cases hresult), fun hequal => absurd hequal hother,
    fun hequal => absurd hequal hother, fun _ => rfl⟩

end

end Activations

/-! ## Signed requests -/

/-- A call that signs has moved the counter on if it returns a request, whose nonce has the number
that the counter had. -/
def Counts (processId : UInt32) (sequence : UInt64)
    (result : Except AuthenticationError ServiceAuthentication × UInt64) : Prop :=
  sequence ≤ result.2 ∧ ∀ authentication, result.1 = .ok authentication →
    sequence < result.2 ∧ ∃ issuedAtMs,
      authentication.nonce = serviceNonce processId issuedAtMs sequence

section Signing

variable {processId : UInt32} {sequence : UInt64}

lemma Counts.of_error (error : AuthenticationError) :
    Counts processId sequence (.error error, sequence) :=
  ⟨UInt64.le_refl _, fun _ h => by cases h⟩

lemma authenticateAt_counts
    {authenticate : ServiceRequestPayload → Except AuthenticationError ServiceAuthentication}
    (hnonce : ∀ payload authentication, authenticate payload = .ok authentication →
      authentication.nonce = payload.nonce) (request : SigningRequest) (issuedAtMs : UInt64) :
    Counts processId sequence
      (authenticateAt processId authenticate request issuedAtMs sequence) := by
  unfold authenticateAt nextServiceNonce
  split
  · rename_i hnext
    split at hnext
    · cases hnext
    · cases hnext
      exact Counts.of_error _
  · rename_i hnext
    split at hnext
    · rename_i hroom
      cases hnext
      -- there is room for another number, so the counter does not wrap
      have hlt : sequence < sequence + 1 := by
        rw [UInt64.lt_iff_toNat_lt, UInt64.toNat_add, UInt64.toNat_one, Nat.mod_eq_of_lt hroom]
        exact Nat.lt_succ_self _
      exact ⟨UInt64.le_of_lt hlt, fun authentication h => ⟨hlt, issuedAtMs, hnonce _ _ h⟩⟩
    · cases hnext

variable [Ed25519] [Base64]

lemma nonce_authenticateWithSigningKey {serviceId : String} {seed : Wire.Bytes}
    {payload : ServiceRequestPayload} {authentication : ServiceAuthentication}
    (h : authenticateWithSigningKey serviceId seed payload = .ok authentication) :
    authentication.nonce = payload.nonce := by
  obtain ⟨message, -, h⟩ := of_bind h
  cases h
  rfl

lemma ServiceSignerSnapshot.authenticateNow_counts (snapshot : ServiceSignerSnapshot)
    (request : SigningRequest) (now : Except AuthenticationError UInt64) :
    Counts processId sequence (snapshot.authenticateNow processId request now sequence) := by
  unfold ServiceSignerSnapshot.authenticateNow
  split
  · cases now with
    | error error => exact Counts.of_error error
    | ok issuedAtMs =>
      refine authenticateAt_counts ?_ request issuedAtMs
      intro payload authentication h
      obtain ⟨-, -, h⟩ := of_bind h
      exact nonce_authenticateWithSigningKey h
  · exact Counts.of_error _

lemma ServiceSigningIdentity.authenticateNow_counts (identity : ServiceSigningIdentity)
    (request : SigningRequest) (now : Except AuthenticationError UInt64) :
    Counts processId sequence (identity.authenticateNow processId request now sequence) := by
  unfold ServiceSigningIdentity.authenticateNow
  cases now with
  | error error => exact Counts.of_error error
  | ok issuedAtMs =>
    exact authenticateAt_counts (fun _ _ h => nonce_authenticateWithSigningKey h) request issuedAtMs

end Signing

/-! ## Runs -/

/-- Activations that lead from one state to another, each from where the one before has led. -/
def Linked : ServiceSignerState → List Activation → ServiceSignerState → Prop
  | start, [], state => state = start
  | start, activation :: rest, state =>
    activation.before = start ∧ Linked activation.after rest state

lemma Linked.concat {start : ServiceSignerState} {activations : List Activation}
    {activation : Activation} (h : Linked start activations activation.before) :
    Linked start (activations ++ [activation]) activation.after := by
  induction activations generalizing start with
  | nil => exact ⟨h, rfl⟩
  | cons first rest ih => exact ⟨h.1, ih h.2⟩

namespace ServiceSigner

section Runs

variable [Ed25519] {processId : UInt32}

/-- What holds of a signer that has been run from `start` on. -/
structure Invariant (processId : UInt32) (start s : ServiceSigner) : Prop where
  mode : s.state.mode = start.state.mode
  serviceId : s.state.serviceId = start.state.serviceId
  clusterId : s.state.clusterId = start.state.clusterId
  static : s.state.mode = .static → s.state.generation = none
  validating : ∀ candidate, s.validating = some candidate → s.state.consider candidate = .ok none
  linked : Linked start.state s.activations s.state
  correct : ∀ activation ∈ s.activations, activation.Correct
  numbered : ∀ authentication ∈ s.authentications, ∃ issuedAtMs sequence,
    sequence < s.sequence ∧ authentication.nonce = serviceNonce processId issuedAtMs sequence
  nodup : (s.authentications.map ServiceAuthentication.nonce).Nodup

variable {start s s' : ServiceSigner}

/-- An activation returns. -/
theorem Invariant.settle (h : Invariant processId start s)
    {candidate : VerifiedServiceSigningBundle} {after : ServiceSignerState}
    {result : Except ServiceSigningError ServiceSignerActivationOutcome}
    (hmode : after.mode = s.state.mode) (hservice : after.serviceId = s.state.serviceId)
    (hcluster : after.clusterId = s.state.clusterId)
    (hstatic : after.mode = .static → after.generation = none)
    (hcorrect : (Activation.mk s.state candidate result after).Correct) :
    Invariant processId start (s.settle candidate result after) where
  mode := hmode.trans h.mode
  serviceId := hservice.trans h.serviceId
  clusterId := hcluster.trans h.clusterId
  static := hstatic
  validating := by
    intro other hother
    cases hother
  linked := Linked.concat h.linked
  correct := by
    intro activation hactivation
    rcases mem_append.mp hactivation with hold | hnew
    · exact h.correct activation hold
    · rw [mem_singleton.mp hnew]
      exact hcorrect
  numbered := h.numbered
  nodup := h.nodup

/-- A call that signs returns. -/
theorem Invariant.signed (h : Invariant processId start s)
    {result : Except AuthenticationError ServiceAuthentication × UInt64}
    (hcounts : Counts processId s.sequence result) :
    Invariant processId start (s.signed result) := by
  obtain ⟨hle, hok⟩ := hcounts
  have hold : ∀ authentication ∈ s.authentications, ∃ issuedAtMs sequence,
      sequence < result.2 ∧ authentication.nonce = serviceNonce processId issuedAtMs sequence := by
    intro authentication hmem
    obtain ⟨issuedAtMs, sequence, hlt, hnonce⟩ := h.numbered authentication hmem
    exact ⟨issuedAtMs, sequence, UInt64.lt_of_lt_of_le hlt hle, hnonce⟩
  obtain ⟨answer, sequence⟩ := result
  cases answer with
  | error error =>
    refine ⟨h.mode, h.serviceId, h.clusterId, h.static, h.validating, h.linked, h.correct, ?_, ?_⟩
    · simpa [ServiceSigner.signed, Except.toOption] using hold
    · simpa [ServiceSigner.signed, Except.toOption] using h.nodup
  | ok authentication =>
    obtain ⟨hlt, issuedAtMs, hnonce⟩ := hok authentication rfl
    refine ⟨h.mode, h.serviceId, h.clusterId, h.static, h.validating, h.linked, h.correct, ?_, ?_⟩
    · intro other hother
      rcases mem_append.mp hother with hmem | hnew
      · exact hold other hmem
      · rw [mem_singleton.mp hnew]
        exact ⟨issuedAtMs, s.sequence, hlt, hnonce⟩
    · show ((s.authentications ++ [authentication]).map ServiceAuthentication.nonce).Nodup
      rw [map_append, map_singleton, ← concat_eq_append]
      apply List.Nodup.concat _ h.nodup
      -- the numbers before are all smaller
      intro hmem
      obtain ⟨other, hother, hequal⟩ := mem_map.mp hmem
      obtain ⟨otherMs, number, hnumber, hotherNonce⟩ := h.numbered other hother
      rw [hotherNonce, hnonce] at hequal
      rw [serviceNonce_injective hequal] at hnumber
      exact absurd hnumber (UInt64.lt_irrefl _)

variable [Base64]

lemma Invariant.of_init (h : (signerSystem processId).init start) :
    Invariant processId start start := by
  rcases h with ⟨identity, sequence, rfl⟩ | ⟨bundle, rfl⟩
  · exact ⟨rfl, rfl, rfl, fun _ => rfl, fun _ h => (by cases h), rfl, fun _ h => (by cases h),
      fun _ h => (by cases h), nodup_nil⟩
  · exact ⟨rfl, rfl, rfl, fun h => (by cases h), fun _ h => (by cases h), rfl,
      fun _ h => (by cases h), fun _ h => (by cases h), nodup_nil⟩

section

variable (h : Invariant processId start s)
include h

lemma Invariant.activate {candidate : VerifiedServiceSigningBundle}
    (hact : s.act processId (.activate candidate) = some s') : Invariant processId start s' := by
  simp only [act] at hact
  split at hact
  · cases hact
  · split at hact
    · rename_i error hconsider
      cases hact
      exact h.settle rfl rfl rfl h.static (.of_consider h.static hconsider)
    · rename_i outcome hconsider
      cases hact
      exact h.settle rfl rfl rfl h.static (.of_consider h.static hconsider)
    · rename_i hconsider
      cases hact
      refine ⟨h.mode, h.serviceId, h.clusterId, h.static, ?_, h.linked, h.correct, h.numbered,
        h.nodup⟩
      intro other hother
      cases hother
      exact hconsider

lemma Invariant.verdict {accepted : Option Bool}
    (hact : s.act processId (.verdict accepted) = some s') : Invariant processId start s' := by
  obtain ⟨candidate, hvalidating, hact⟩ := bind_eq_some_iff.mp hact
  have hconsider := h.validating candidate hvalidating
  split at hact
  · cases hact
    obtain ⟨hcluster, hservice, generation, hgeneration, -⟩ := consider_eq_ok hconsider
    refine h.settle rfl hservice hcluster.symm ?_ (.of_accepted hconsider)
    intro hmode
    rw [h.static hmode] at hgeneration
    cases hgeneration
  · cases hact
    exact h.settle rfl rfl rfl h.static (.of_rejected hconsider)
  · cases hact
    exact ⟨h.mode, h.serviceId, h.clusterId, h.static, fun _ hother => (by cases hother), h.linked,
      h.correct, h.numbered, h.nodup⟩

lemma Invariant.step (hstep : (signerSystem processId).step s s') :
    Invariant processId start s' := by
  obtain ⟨action, hact⟩ := hstep
  cases action with
  | activate candidate => exact h.activate hact
  | verdict accepted => exact h.verdict hact
  | snapshot =>
    simp only [act] at hact
    split at hact
    · cases hact
    · cases hact
      exact ⟨h.mode, h.serviceId, h.clusterId, h.static, h.validating, h.linked, h.correct,
        h.numbered, h.nodup⟩
  | sign index request now =>
    obtain ⟨snapshot, -, hact⟩ := bind_eq_some_iff.mp hact
    cases hact
    exact h.signed (snapshot.authenticateNow_counts request now)
  | signIdentity request now =>
    obtain ⟨identity, -, hact⟩ := bind_eq_some_iff.mp hact
    cases hact
    exact h.signed (identity.authenticateNow_counts request now)

end

/-- Whatever happens to a signer, its state has only changed by activations, each of them as it
should be; its service and its cluster have stayed, and so have the nonces been different. -/
theorem signer_handoff (hinit : (signerSystem processId).init start)
    (hsteps : (signerSystem processId).Steps start s) :
    s.state.mode = start.state.mode ∧ s.state.serviceId = start.state.serviceId ∧
      s.state.clusterId = start.state.clusterId ∧ Linked start.state s.activations s.state ∧
      (∀ activation ∈ s.activations, activation.Correct) ∧
      (s.authentications.map ServiceAuthentication.nonce).Nodup := by
  have h : Invariant processId start s := by
    induction hsteps with
    | refl => exact .of_init hinit
    | tail _ hlast ih => exact ih.step hlast
  exact ⟨h.mode, h.serviceId, h.clusterId, h.linked, h.correct, h.nodup⟩

end Runs

section Sample

/-- A bundle with one key. -/
def sampleBundle (generation : UInt64) (credentialId : String) (seed : Wire.Bytes) :
    VerifiedServiceSigningBundle where
  clusterId := "c"
  generation := generation
  serviceId := "n"
  activeCredentialId := credentialId
  credentials := ⟨[⟨credentialId, seed⟩], nodup_singleton _⟩
  active_isSome := by simp [SigningCredentials.get?]

/-- A request to sign. -/
def sampleRequest : SigningRequest := ⟨"GET", "/", "c", "a", []⟩

/-- A handoff to the key `l`, with requests by the snapshot before it, while its validator runs and
after it. -/
def sampleActions : List SignerAction := [
  .snapshot,
  .sign 0 sampleRequest (.ok 1000000000000),
  .activate (sampleBundle 2 "l" (List.replicate 32 2)),
  .sign 1 sampleRequest (.ok 1000000000000),
  .verdict (some true),
  .activate (sampleBundle 1 "k" (List.replicate 32 1)),
  .sign 0 sampleRequest (.ok 1000000000000)]

/-- A signer with the first bundle. -/
def firstSigner : ServiceSigner := .fromBundle (sampleBundle 1 "k" (List.replicate 32 1))

theorem signer_handoff_two : ∃ s : ServiceSigner,
    (@signerSystem checksumEd25519 standardBase64 7).Steps firstSigner s ∧
    (s.state.generation, s.activations.length, s.authentications.length) = (some 2, 2, 3) ∧
    (s.authentications.map ServiceAuthentication.nonce).Nodup := by
  let _ := checksumEd25519
  let _ := standardBase64
  have hrun : (sampleActions.foldlM (ServiceSigner.act 7) firstSigner).map (fun s =>
      (s.state.generation, s.activations.length, s.authentications.length)) =
      some (some 2, 2, 3) := by
    decide +kernel
  obtain ⟨s, hs, hsummary⟩ := map_eq_some_iff.mp hrun
  have hsteps : (signerSystem 7).Steps firstSigner s :=
    System.Steps.of_actions (fun _ action _ hact => ⟨action, hact⟩) hs
  obtain ⟨-, -, -, -, -, hnodup⟩ := signer_handoff (.inr ⟨_, rfl⟩) hsteps
  exact ⟨s, hsteps, hsummary, hnodup⟩

end Sample

end ServiceSigner

end InferLab.ServiceAuth
