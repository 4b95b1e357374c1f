import InferLab.Receiver.Authorizer

/-!
# Control plane: when a nonce is accepted again

The authentications of one process in any order, with any readings of the clock, and with
policies activated between them. A nonce of a service is accepted a second time only after
some authentication has read a time at which the first request was too old even for a clock
that is off by the tolerated skew.
-/

namespace InferLab.Receiver

open ServiceAuth ServiceAuthorizer List Option

/-- What happened at the replay cache. -/
structure ReplayEvent where
  request : FreshRequest
  accepted : Bool
deriving Repr, DecidableEq

/-- An authorizer and the requests it has seen. -/
structure AuthorizerState where
  authorizer : ServiceAuthorizer
  /-- Requests that hold the read guard on their way to the replay cache. -/
  inFlight : List FreshRequest
  /-- The requests that came to the replay cache, in order. -/
  history : List ReplayEvent
deriving Repr, DecidableEq

/-- The pairs that were accepted, in order. -/
def AuthorizerState.acceptedPairs (s : AuthorizerState) : List (String × String) :=
  (s.history.filter ReplayEvent.accepted).map fun event => event.request.pair

/-- What happens to it. -/
inductive AuthorizerAction
  | begin (authentication : Option ServiceAuthentication) (context : ServiceRequestContext)
  | finish (index : ℕ)
  | activate (snapshot : VerifiedServiceTrustSnapshot) (observedNowMs : UInt64)
  /-- Status reports, fetches of policies and the check before the headers are read. -/
  | observe (observedNowMs : UInt64)
deriving Repr, DecidableEq

section Process

variable [Ed25519] [Base64]

/-- One step of the process. An activation waits for the requests in flight. -/
def AuthorizerState.step (s : AuthorizerState) : AuthorizerAction → Option AuthorizerState
  | .begin authentication context =>
    let (result, authorizer) := s.authorizer.beginAuthenticate authentication context
    match result with
    | .ok (some request) => some { s with
        authorizer := authorizer
        inFlight := s.inFlight ++ [request] }
    | _ => some { s with authorizer := authorizer }
  | .finish index => do
    let request ← s.inFlight[index]?
    let (result, cache) := checkReplay s.authorizer.replayCache request
    some {
      authorizer := { s.authorizer with replayCache := cache }
      inFlight := s.inFlight.eraseIdx index
      history := s.history ++ [⟨request, result.isOk⟩] }
  | .activate snapshot observedNowMs =>
    if s.inFlight.isEmpty then
      some { s with authorizer := (s.authorizer.applySignedSnapshot snapshot observedNowMs).2 }
    else none
  | .observe observedNowMs =>
    some { s with authorizer := s.authorizer.observeWallClock observedNowMs }

/-- The authorizers that the process can start with. -/
inductive Constructed : ServiceAuthorizer → Prop
  | disabled : Constructed ServiceAuthorizer.disabled
  | required {keys gatewayServiceIds maxAgeMs maxFutureSkewMs authorizer}
      (h : ServiceAuthorizer.required keys gatewayServiceIds maxAgeMs maxFutureSkewMs =
        .ok authorizer) : Constructed authorizer
  | signed {snapshot trusted revoked config maxAgeMs maxFutureSkewMs loadedAtMs authorizer}
      (h : requiredFromSignedSnapshot snapshot trusted revoked config maxAgeMs maxFutureSkewMs
        loadedAtMs = .ok authorizer) : Constructed authorizer

def authorizerSystem : System AuthorizerState where
  init s := Constructed s.authorizer ∧ s.inFlight = [] ∧ s.history = []
  step s s' := ∃ action, s.step action = some s'

/-! ## What the replay cache remembers -/

section Cache

omit [Ed25519] [Base64]

variable {cache cache' : List ((String × String) × UInt64)} {request : FreshRequest}

/-- The last time, without overflow, at which the nonce of a request is kept. -/
def windowEnd (request : FreshRequest) : ℕ :=
  request.issuedAtMs.toNat + request.maxAgeMs.toNat + request.maxFutureSkewMs.toNat

lemma toNat_expiresAtMs :
    (UInt64.ofNat request.expiresAtMs).toNat = min (windowEnd request) u64Max := by
  have hlt : request.expiresAtMs < 2 ^ 64 := by
    unfold FreshRequest.expiresAtMs saturatingAdd u64Max
    omega
  rw [UInt64.toNat_ofNat_of_lt' hlt]
  unfold FreshRequest.expiresAtMs saturatingAdd windowEnd u64Max
  omega

/-- What a check leaves in the cache, and what it found there. -/
theorem checkReplay_spec {result : Except ServiceAuthorizationError VerifiedServiceCredential}
    (h : checkReplay cache request = (result, cache')) :
    (∀ entry ∈ cache, request.nowMs ≤ entry.2 → entry ∈ cache') ∧
    (result.isOk = true → (∀ entry ∈ cache, request.nowMs ≤ entry.2 → entry.1 ≠ request.pair) ∧
      (request.pair, UInt64.ofNat request.expiresAtMs) ∈ cache') := by
  have hkept : ∀ entry ∈ cache, request.nowMs ≤ entry.2 →
      entry ∈ cache.filter fun entry => request.nowMs ≤ entry.2 := fun entry hentry hnow =>
    mem_filter.mpr ⟨hentry, decide_eq_true hnow⟩
  unfold checkReplay at h
  by_cases hfound : ((cache.filter fun entry => request.nowMs ≤ entry.2).any
      fun entry => entry.1 == request.pair) = true
  · rw [if_pos hfound] at h
    cases h
    exact ⟨hkept, fun hok => by cases hok⟩
  · rw [if_neg hfound] at h
    by_cases hfull : maxReplayEntries ≤ (cache.filter fun entry => request.nowMs ≤ entry.2).length
    · rw [if_pos hfull] at h
      cases h
      exact ⟨hkept, fun hok => by cases hok⟩
    · rw [if_neg hfull] at h
      cases h
      refine ⟨fun entry hentry hnow => mem_cons_of_mem _ (hkept entry hentry hnow),
        fun _ => ⟨?_, mem_cons_self⟩⟩
      intro entry hentry hnow heq
      apply hfound
      exact any_eq_true.mpr ⟨entry, hkept entry hentry hnow, by rw [heq, beq_self_eq_true]⟩

end Cache

/-! ## Settings -/

section Settings

variable {age skew : UInt64} {authorizer authorizer' : ServiceAuthorizer} {request : FreshRequest}

/-- The age and the skew that requests are judged by. -/
def HasSettings (age skew : UInt64) (authorizer : ServiceAuthorizer) : Prop :=
  ∀ mode, authorizer.mode = .required mode → mode.maxAgeMs = age ∧ mode.maxFutureSkewMs = skew

/-- A request that was not too old when it was read. -/
structure Timely (age skew : UInt64) (request : FreshRequest) : Prop where
  maxAgeMs : request.maxAgeMs = age
  maxFutureSkewMs : request.maxFutureSkewMs = skew
  young : request.nowMs.toNat ≤ request.issuedAtMs.toNat + age.toNat

lemma Timely.of_verifyFresh {mode : RequiredMode} {authentication : ServiceAuthentication}
    {context : ServiceRequestContext} (h : verifyFresh mode authentication context = .ok request) :
    Timely mode.maxAgeMs mode.maxFutureSkewMs request := by
  unfold verifyFresh at h
  dsimp only at h
  split at h
  · cases h
  · split at h
    · cases h
    · split at h
      · cases h
      · rename_i hage
        cases h
        refine ⟨rfl, rfl, ?_⟩
        show context.nowMs.toNat ≤ authentication.issuedAtMs.toNat + mode.maxAgeMs.toNat
        omega

/-- Authentication up to the replay cache changes the observed time only. -/
theorem beginAuthenticate_spec {authentication : Option ServiceAuthentication}
    {context : ServiceRequestContext}
    {result : Except ServiceAuthorizationError (Option FreshRequest)}
    (hsettings : HasSettings age skew authorizer)
    (h : authorizer.beginAuthenticate authentication context = (result, authorizer')) :
    authorizer'.mode = authorizer.mode ∧ authorizer'.replayCache = authorizer.replayCache ∧
      ∀ request, result = .ok (some request) → Timely age skew request := by
  unfold beginAuthenticate at h
  cases hmode : authorizer.mode with
  | disabled =>
    rw [hmode] at h
    cases authentication with
    | none =>
      cases h
      exact ⟨hmode, rfl, fun request hrequest => by cases hrequest⟩
    | some authentication =>
      cases h
      exact ⟨hmode, rfl, fun request hrequest => by cases hrequest⟩
  | required mode =>
    rw [hmode] at h
    dsimp only at h
    split at h
    · cases h
      exact ⟨hmode, rfl, fun request hrequest => by cases hrequest⟩
    · cases authentication with
      | none =>
        cases h
        exact ⟨hmode, rfl, fun request hrequest => by cases hrequest⟩
      | some authentication =>
        cases h
        refine ⟨hmode, rfl, fun request hrequest => ?_⟩
        cases hfresh : verifyFresh mode authentication context with
        | error error =>
          rw [hfresh] at hrequest
          cases hrequest
        | ok fresh =>
          rw [hfresh] at hrequest
          cases hrequest
          have htimely := Timely.of_verifyFresh hfresh
          rwa [(hsettings mode hmode).1, (hsettings mode hmode).2] at htimely

omit [Ed25519] [Base64]

/-- A new policy keeps the settings of the one that it replaces. -/
theorem applySignedSnapshot_settings {snapshot : VerifiedServiceTrustSnapshot}
    {observedNowMs : UInt64} (hsettings : HasSettings age skew authorizer) :
    HasSettings age skew (authorizer.applySignedSnapshot snapshot observedNowMs).2 ∧
      (authorizer.applySignedSnapshot snapshot observedNowMs).2.replayCache =
        authorizer.replayCache := by
  unfold applySignedSnapshot
  dsimp only
  split
  · exact ⟨hsettings, rfl⟩
  · exact ⟨hsettings, rfl⟩
  · rename_i next hnext
    obtain ⟨current, config, validity, hcurrent, -, -, -, -, -, rfl⟩ := nextMode_eq_some hnext
    refine ⟨?_, rfl⟩
    intro mode hmode
    cases hmode
    exact hsettings current hcurrent

end Settings

/-! ## Runs -/

section Runs

omit [Ed25519] [Base64]

variable {age skew : UInt64} {s s' : AuthorizerState}

/-- An accepted request is remembered until an authentication has read a later time. -/
structure ReplayInvariant (age skew : UInt64) (s : AuthorizerState) : Prop where
  settings : HasSettings age skew s.authorizer
  inFlight : ∀ request ∈ s.inFlight, Timely age skew request
  history : ∀ event ∈ s.history, Timely age skew event.request
  remembered : ∀ before event after, s.history = before ++ event :: after →
    event.accepted = true →
    (event.request.pair, UInt64.ofNat event.request.expiresAtMs) ∈ s.authorizer.replayCache ∨
      ∃ later ∈ after, windowEnd event.request < later.request.nowMs.toNat
  again : ∀ before event between second after,
    s.history = before ++ event :: between ++ second :: after →
    event.accepted = true → second.accepted = true →
    event.request.pair = second.request.pair →
    ∃ later ∈ between ++ [second], windowEnd event.request < later.request.nowMs.toNat

/-- Steps that leave the cache and the history alone keep the invariant. -/
theorem ReplayInvariant.frame (hinv : ReplayInvariant age skew s)
    (hsettings : HasSettings age skew s'.authorizer)
    (hcache : s'.authorizer.replayCache = s.authorizer.replayCache)
    (hhistory : s'.history = s.history)
    (hinFlight : ∀ request ∈ s'.inFlight, Timely age skew request) :
    ReplayInvariant age skew s' := by
  refine ⟨hsettings, hinFlight, ?_, ?_, ?_⟩
  · rw [hhistory]
    exact hinv.history
  · rw [hhistory, hcache]
    exact hinv.remembered
  · rw [hhistory]
    exact hinv.again

/-- A list with one more element, split at some element. -/
theorem append_singleton_eq_split {α : Type} {l before after : List α} {x y : α}
    (h : l ++ [x] = before ++ y :: after) :
    (after = [] ∧ l = before ∧ x = y) ∨
      ∃ after', after = after' ++ [x] ∧ l = before ++ y :: after' := by
  rcases eq_nil_or_concat after with rfl | ⟨after', z, rfl⟩
  · obtain ⟨hl, hxy⟩ := append_inj' h rfl
    exact .inl ⟨rfl, hl, (List.cons.inj hxy).1⟩
  · rw [concat_eq_append] at h ⊢
    rw [← cons_append, ← append_assoc] at h
    obtain ⟨hl, hxz⟩ := append_inj' h rfl
    cases hxz
    exact .inr ⟨after', rfl, hl⟩

/-- What happens under the lock of the cache keeps the invariant. -/
theorem ReplayInvariant.finish (hinv : ReplayInvariant age skew s) {index : ℕ}
    {request : FreshRequest} (hrequest : s.inFlight[index]? = some request)
    {result : Except ServiceAuthorizationError VerifiedServiceCredential}
    {cache : List ((String × String) × UInt64)}
    (hcheck : checkReplay s.authorizer.replayCache request = (result, cache)) :
    ReplayInvariant age skew {
      authorizer := { s.authorizer with replayCache := cache }
      inFlight := s.inFlight.eraseIdx index
      history := s.history ++ [⟨request, result.isOk⟩] } := by
  have htimely := hinv.inFlight request (mem_of_getElem? hrequest)
  obtain ⟨hkept, hnew⟩ := checkReplay_spec hcheck
  -- an entry is dropped only when a time after its window was read
  have hentry : ∀ event : ReplayEvent,
      (event.request.pair, UInt64.ofNat event.request.expiresAtMs) ∈ s.authorizer.replayCache →
      (event.request.pair, UInt64.ofNat event.request.expiresAtMs) ∈ cache ∨
        windowEnd event.request < request.nowMs.toNat := by
    intro event hmem
    by_cases hnow : request.nowMs ≤ UInt64.ofNat event.request.expiresAtMs
    · exact .inl (hkept _ hmem hnow)
    · right
      have hlt := UInt64.lt_iff_toNat_lt.mp (UInt64.not_le.mp hnow)
      rw [toNat_expiresAtMs] at hlt
      have hmax : request.nowMs.toNat ≤ u64Max := Nat.le_pred_of_lt request.nowMs.toNat_lt
      omega
  have hremembered : ∀ before event after,
      s.history ++ [⟨request, result.isOk⟩] = before ++ event :: after → event.accepted = true →
      (event.request.pair, UInt64.ofNat event.request.expiresAtMs) ∈ cache ∨
        ∃ later ∈ after, windowEnd event.request < later.request.nowMs.toNat := by
    intro before event after hsplit haccepted
    rcases append_singleton_eq_split hsplit with ⟨-, -, rfl⟩ | ⟨after', rfl, hhistory⟩
    · exact .inl (hnew haccepted).2
    · rcases hinv.remembered before event after' hhistory haccepted with
        hmem | ⟨later, hlater, hend⟩
      · rcases hentry event hmem with hmem | hend
        · exact .inl hmem
        · exact .inr ⟨_, mem_append_right _ (mem_singleton_self _), hend⟩
      · exact .inr ⟨later, mem_append_left _ hlater, hend⟩
  refine ⟨hinv.settings, fun r hr => hinv.inFlight r (mem_of_mem_eraseIdx hr), ?_,
    hremembered, ?_⟩
  · intro event hevent
    rcases mem_append.mp hevent with hold | hnew
    · exact hinv.history event hold
    · obtain rfl := mem_singleton.mp hnew
      exact htimely
  · intro before event between second after hsplit hfirst hsecond hpair
    rcases append_singleton_eq_split hsplit with ⟨-, hhistory, rfl⟩ | ⟨after', rfl, hhistory⟩
    · -- the second request has just been accepted, so the first was not remembered any more
      rcases hinv.remembered before event between hhistory hfirst with hmem | ⟨later, hlater, hend⟩
      · have hlt : windowEnd event.request < request.nowMs.toNat := by
          rcases hentry event hmem with hmem' | hend
          · by_contra hle
            apply (hnew hsecond).1 _ hmem _ hpair
            apply UInt64.le_iff_toNat_le.mpr
            rw [toNat_expiresAtMs]
            have hmax : request.nowMs.toNat ≤ u64Max := Nat.le_pred_of_lt request.nowMs.toNat_lt
            omega
          · exact hend
        exact ⟨_, mem_append_right _ (mem_singleton_self _), hlt⟩
      · exact ⟨later, mem_append_left _ hlater, hend⟩
    · exact hinv.again before event between second after' hhistory hfirst hsecond hpair

end Runs

section Steps

variable {age skew : UInt64} {s s' : AuthorizerState}

lemma ReplayInvariant.step (hinv : ReplayInvariant age skew s) {action : AuthorizerAction}
    (h : s.step action = some s') : ReplayInvariant age skew s' := by
  cases action with
  | begin authentication context =>
    cases hbegin : s.authorizer.beginAuthenticate authentication context with
    | mk result authorizer =>
      obtain ⟨hmode, hcache, htimely⟩ := beginAuthenticate_spec hinv.settings hbegin
      have hsettings : HasSettings age skew authorizer := fun mode h =>
        hinv.settings mode (hmode ▸ h)
      simp only [AuthorizerState.step, hbegin] at h
      split at h
      · rename_i request
        cases h
        refine hinv.frame hsettings hcache rfl fun r hr => ?_
        rcases mem_append.mp hr with hold | hnew
        · exact hinv.inFlight r hold
        · exact mem_singleton.mp hnew ▸ htimely request rfl
      · cases h
        exact hinv.frame hsettings hcache rfl hinv.inFlight
  | finish index =>
    obtain ⟨request, hrequest, h⟩ := bind_eq_some_iff.mp h
    cases hcheck : checkReplay s.authorizer.replayCache request with
    | mk result cache =>
      rw [hcheck] at h
      cases h
      exact hinv.finish hrequest hcheck
  | activate snapshot observedNowMs =>
    simp only [AuthorizerState.step, ite_none_right_eq_some, some.injEq] at h
    obtain ⟨-, rfl⟩ := h
    obtain ⟨hsettings, hcache⟩ := applySignedSnapshot_settings hinv.settings
    exact hinv.frame hsettings hcache rfl hinv.inFlight
  | observe observedNowMs =>
    cases h
    exact hinv.frame hinv.settings rfl rfl hinv.inFlight

omit [Ed25519] [Base64] in
/-- A constructed authorizer has settings. -/
theorem Constructed.exists_settings {authorizer : ServiceAuthorizer} (h : Constructed authorizer) :
    ∃ age skew, HasSettings age skew authorizer := by
  cases h with
  | disabled => exact ⟨0, 0, fun mode h => by cases h⟩
  | @required _ _ maxAgeMs maxFutureSkewMs _ h =>
    obtain ⟨_, _, h⟩ := of_bind h
    cases h
    refine ⟨maxAgeMs, maxFutureSkewMs, fun mode h => ?_⟩
    cases h
    exact ⟨rfl, rfl⟩
  | @signed _ _ _ _ maxAgeMs maxFutureSkewMs _ _ h =>
    obtain ⟨_, _, h⟩ := of_bind h
    obtain ⟨_, _, h⟩ := of_bind h
    cases h
    refine ⟨maxAgeMs, maxFutureSkewMs, fun mode h => ?_⟩
    cases h
    exact ⟨rfl, rfl⟩

lemma ReplayInvariant.of_reachable (h : authorizerSystem.Reachable s) :
    ∃ age skew, ReplayInvariant age skew s := by
  apply h.invariant
  · rintro s ⟨hconstructed, hinFlight, hhistory⟩
    obtain ⟨age, skew, hsettings⟩ := hconstructed.exists_settings
    refine ⟨age, skew, hsettings, ?_, ?_, ?_, ?_⟩
    · simp [hinFlight]
    · simp [hhistory]
    · simp [hhistory]
    · simp [hhistory]
  · rintro s s' ⟨age, skew, hinv⟩ ⟨action, hstep⟩
    exact ⟨age, skew, hinv.step hstep⟩

end Steps

/-- A nonce of a service is accepted a second time only after a request has come to the replay
cache with a time at which the first one was out of its window. A replay, with the issue time
of the first request, is accepted only if the clock has stepped back by more than the tolerated
skew in the meantime. -/
theorem nonce_accepted_again (s : AuthorizerState) (h : authorizerSystem.Reachable s)
    (before between after : List ReplayEvent) (first second : ReplayEvent)
    (hhistory : s.history = before ++ first :: between ++ second :: after)
    (hfirst : first.accepted = true) (hsecond : second.accepted = true)
    (hpair : first.request.pair = second.request.pair) :
    (∃ event ∈ between ++ [second], windowEnd first.request < event.request.nowMs.toNat) ∧
    (first.request.issuedAtMs = second.request.issuedAtMs → ∃ event ∈ between,
      second.request.nowMs.toNat + second.request.maxFutureSkewMs.toNat <
        event.request.nowMs.toNat) := by
  obtain ⟨age, skew, hinv⟩ := ReplayInvariant.of_reachable h
  obtain ⟨event, hevent, hend⟩ := hinv.again before first between second after hhistory hfirst
    hsecond hpair
  refine ⟨⟨event, hevent, hend⟩, fun hissued => ⟨event, ?_⟩⟩
  have hone := hinv.history first (by simp [hhistory])
  have htwo := hinv.history second (by simp [hhistory])
  -- the second request was read while the first one was in its window
  have hwindow : second.request.nowMs.toNat + second.request.maxFutureSkewMs.toNat ≤
      windowEnd first.request := by
    have hyoung := htwo.young
    unfold windowEnd
    rw [hone.maxAgeMs, hone.maxFutureSkewMs, hissued, htwo.maxFutureSkewMs]
    omega
  rcases mem_append.mp hevent with hbetween | hlast
  · exact ⟨hbetween, lt_of_le_of_lt hwindow hend⟩
  · obtain rfl := mem_singleton.mp hlast
    omega

end Process

/-! ## A nonce that is used again -/

def gatewaySeed : Wire.Bytes := List.replicate 32 0

def gatewayRequest (nowMs : UInt64) : ServiceRequestContext where
  method := "GET"
  path := "/v1/config"
  clusterId := "inferlab-primary"
  audienceId := "control-a"
  body := []
  nowMs := nowMs

def firstNonce : String := "000102030405060708090a0b0c0d0e0f"

def otherNonce : String := "100102030405060708090a0b0c0d0e0f"

def signedByGateway (nonce : String) (nowMs : UInt64) : Option ServiceAuthentication :=
  let context := gatewayRequest nowMs
  (@authenticateWithSigningKey checksumEd25519 standardBase64 "gateway-primary" gatewaySeed {
    method := context.method
    path := context.path
    clusterId := context.clusterId
    audienceId := context.audienceId
    issuedAtMs := nowMs
    nonce := nonce
    body := context.body }).toOption

/-- The ring of `gateway-primary/key-a` alone. -/
def gatewayKeys : TrustedServiceKeyRing where
  keys := [("gateway-primary", [⟨"key-a", gatewaySeed⟩])]
  orderedServiceIds := ["gateway-primary"]
  orderedCredentials := ["gateway-primary/key-a"]
  revokedServiceIds := []
  revokedCredentials := []

def gatewayAuthorizer : ServiceAuthorizer :=
  (ServiceAuthorizer.required gatewayKeys ["gateway-primary"] 30000 5000).toOption.getD .disabled

def sentByGateway (nonce : String) (nowMs : UInt64) : List AuthorizerAction :=
  [.begin (signedByGateway nonce nowMs) (gatewayRequest nowMs), .finish 0]

/-- One request, one with the same nonce a minute later, one with another nonce, and after the
clock has stepped back the second one again. -/
def nonceReused : List AuthorizerAction :=
  sentByGateway firstNonce 100000 ++ sentByGateway firstNonce 160000 ++
    sentByGateway otherNonce 300000 ++ sentByGateway firstNonce 160000

/-- A request of the run. -/
def acceptedRequest (nonce : String) (nowMs : UInt64) : ReplayEvent where
  request := {
    verified := ⟨"gateway-primary", "key-a"⟩
    serviceId := "gateway-primary"
    nonce := nonce
    issuedAtMs := nowMs
    nowMs := nowMs
    maxAgeMs := 30000
    maxFutureSkewMs := 5000 }
  accepted := true

/-- All four are accepted. -/
def reusedHistory : List ReplayEvent :=
  [acceptedRequest firstNonce 100000, acceptedRequest firstNonce 160000,
    acceptedRequest otherNonce 300000, acceptedRequest firstNonce 160000]

lemma exists_nonceReused : ∃ s, (@authorizerSystem checksumEd25519 standardBase64).Reachable s ∧
    s.history = reusedHistory := by
  have hrequired : ServiceAuthorizer.required gatewayKeys ["gateway-primary"] 30000 5000 =
      .ok gatewayAuthorizer := by decide +kernel
  have hrun : (nonceReused.foldlM (@AuthorizerState.step checksumEd25519 standardBase64)
      ⟨gatewayAuthorizer, [], []⟩).map AuthorizerState.history = some reusedHistory := by
    decide +kernel
  obtain ⟨s, hs, hhistory⟩ := map_eq_some_iff.mp hrun
  refine ⟨s, ⟨⟨gatewayAuthorizer, [], []⟩, ⟨.required hrequired, rfl, rfl⟩, ?_⟩, hhistory⟩
  exact System.Steps.of_actions (fun _ action _ h => ⟨action, h⟩) hs

/-- The nonce was forgotten with the window of the first request. -/
theorem nonce_accepted_twice :
    ∃ s, (@authorizerSystem checksumEd25519 standardBase64).Reachable s ∧
      ¬s.acceptedPairs.Nodup := by
  obtain ⟨s, hreachable, hhistory⟩ := exists_nonceReused
  refine ⟨s, hreachable, ?_⟩
  unfold AuthorizerState.acceptedPairs
  rw [hhistory]
  decide

theorem nonce_accepted_again_later :
    ∃ s, (@authorizerSystem checksumEd25519 standardBase64).Reachable s ∧
      s.history = reusedHistory ∧
      (∃ event ∈ [acceptedRequest firstNonce 160000],
        windowEnd (acceptedRequest firstNonce 100000).request < event.request.nowMs.toNat) ∧
      ∃ event ∈ [acceptedRequest otherNonce 300000], 160000 + 5000 < event.request.nowMs.toNat := by
  obtain ⟨s, hreachable, hhistory⟩ := exists_nonceReused
  have hagain := @nonce_accepted_again checksumEd25519 standardBase64 s hreachable
  exact ⟨s, hreachable, hhistory, (hagain [] [] _ _ _ hhistory rfl rfl rfl).1,
    (hagain [_] [_] [] _ _ hhistory rfl rfl rfl).2 rfl⟩

end InferLab.Receiver
