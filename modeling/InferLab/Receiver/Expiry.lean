import InferLab.Receiver.Replay

/-!
# Control plane: an expired policy stays expired

The clock readings of a receiver come from many places: requests and status reports read it
under the read guard of the policy, an activation under the write guard, and the watcher, when
it fetches policies and posts receipts, under none. All of them end in one atomic maximum.

An activation is two steps here, what it decides from the maximum and the swap of the policy,
so that readings without a guard may come between the two. Requests may not.
-/

namespace InferLab.Receiver

open ServiceAuth ServiceAuthorizer Option List

/-! ## Readings -/

/-- The highest of some readings. -/
structure Highest (reading : UInt64) (readings : List UInt64) : Prop where
  mem : reading ∈ readings
  le : ∀ other ∈ readings, other ≤ reading

lemma Highest.cons {highest : UInt64} {readings : List UInt64} (h : Highest highest readings)
    (reading : UInt64) : Highest (max highest reading) (reading :: readings) := by
  have hle : ∀ other, (other ≤ highest ∨ other ≤ reading) → other ≤ max highest reading := by
    intro other hother
    rw [UInt64.le_iff_toNat_le, UInt64.toNat_max]
    rw [UInt64.le_iff_toNat_le, UInt64.le_iff_toNat_le] at hother
    omega
  refine ⟨?_, ?_⟩
  · rw [UInt64.max_def]
    split
    · exact mem_cons_self
    · exact mem_cons_of_mem _ h.mem
  · intro other hother
    apply hle
    cases hother with
    | head => exact .inr (UInt64.le_refl _)
    | tail _ hother => exact .inl (h.le other hother)

/-! ## The receiver under its guards -/

/-- What an activation decided: the policy, and the mode with it. -/
structure DecidedActivation where
  snapshot : VerifiedServiceTrustSnapshot
  mode : RequiredMode
deriving Repr, DecidableEq

/-- An authorizer, and who holds its guard. -/
structure GuardedState where
  authorizer : ServiceAuthorizer
  /-- Requests under the read guard, on their way to the replay cache. -/
  inFlight : List FreshRequest
  /-- An activation under the write guard. -/
  decided : Option DecidedActivation
  /-- All readings that were observed, the last one first. -/
  readings : List UInt64
deriving Repr, DecidableEq

/-- What happens to it. -/
inductive GuardedAction
  | authenticate (authentication : Option ServiceAuthentication) (context : ServiceRequestContext)
  | finish (index : ℕ)
  | preflight (observedNowMs : UInt64)
  | decide (snapshot : VerifiedServiceTrustSnapshot) (observedNowMs : UInt64)
  | swap
  /-- Fetches and receipts, which take no guard, and status reports. -/
  | observe (observedNowMs : UInt64)
deriving Repr, DecidableEq

/-- A receiver that is not configured reads no clock. -/
def Mode.observed : Mode → UInt64 → Option UInt64
  | .disabled, _ => none
  | .required _, observedNowMs => some observedNowMs

section Process

variable [Ed25519] [Base64]

def GuardedState.step (s : GuardedState) : GuardedAction → Option GuardedState
  | .authenticate authentication context =>
    if s.decided.isSome then none
    else
      let (result, authorizer) := s.authorizer.beginAuthenticate authentication context
      some { s with
        authorizer := authorizer
        inFlight := s.inFlight ++ (match result with
          | .ok (some request) => [request]
          | _ => [])
        readings := (s.authorizer.mode.observed context.nowMs).toList ++ s.readings }
  | .finish index => do
    let request ← s.inFlight[index]?
    let (_, cache) := checkReplay s.authorizer.replayCache request
    some { s with
      authorizer := { s.authorizer with replayCache := cache }
      inFlight := s.inFlight.eraseIdx index }
  | .preflight observedNowMs =>
    if s.decided.isSome then none
    else some { s with
      authorizer := (s.authorizer.preflightSignedPolicyValidity observedNowMs).2
      readings := (s.authorizer.mode.observed observedNowMs).toList ++ s.readings }
  | .decide snapshot observedNowMs =>
    if s.decided.isSome || !s.inFlight.isEmpty then none
    else
      let authorizer := s.authorizer.observeWallClock observedNowMs
      let decided := match nextMode authorizer.mode snapshot authorizer.maxObservedWallClockMs with
        | .ok (some mode) => some ⟨snapshot, mode⟩
        | _ => none
      some { s with
        authorizer := authorizer
        decided := decided
        readings := observedNowMs :: s.readings }
  | .swap => do
    let decided ← s.decided
    some { s with
      authorizer := { s.authorizer with mode := .required decided.mode }
      decided := none }
  | .observe observedNowMs => some { s with
      authorizer := s.authorizer.observeWallClock observedNowMs
      readings := observedNowMs :: s.readings }

/-- A process starts with an authorizer that has been constructed, and with the time that its
policy was loaded at as the only reading. -/
def guardedSystem : System GuardedState where
  init s := Constructed s.authorizer ∧ s.inFlight = [] ∧ s.decided = none ∧
    s.readings = [s.authorizer.maxObservedWallClockMs]
  step s s' := ∃ action, s.step action = some s'

/-! ## What one step does -/

section Steps

/-- The clock of an authorizer after it was read, or was not. -/
structure Observes (authorizer authorizer' : ServiceAuthorizer) (reading : Option UInt64) :
    Prop where
  mode : authorizer'.mode = authorizer.mode
  clock : authorizer'.maxObservedWallClockMs =
    reading.elim authorizer.maxObservedWallClockMs (max authorizer.maxObservedWallClockMs)

lemma beginAuthenticate_observes (authorizer : ServiceAuthorizer)
    (authentication : Option ServiceAuthentication) (context : ServiceRequestContext) :
    Observes authorizer (authorizer.beginAuthenticate authentication context).2
      (authorizer.mode.observed context.nowMs) := by
  unfold beginAuthenticate
  cases authorizer.mode with
  | disabled =>
    cases authentication with
    | none => exact ⟨rfl, rfl⟩
    | some authentication => exact ⟨rfl, rfl⟩
  | required mode =>
    dsimp only
    split
    · exact ⟨rfl, rfl⟩
    · cases authentication with
      | none => exact ⟨rfl, rfl⟩
      | some authentication => exact ⟨rfl, rfl⟩

omit [Ed25519] [Base64]

lemma preflight_observes (authorizer : ServiceAuthorizer) (observedNowMs : UInt64) :
    Observes authorizer (authorizer.preflightSignedPolicyValidity observedNowMs).2
      (authorizer.mode.observed observedNowMs) := by
  unfold preflightSignedPolicyValidity
  cases authorizer.mode with
  | disabled => exact ⟨rfl, rfl⟩
  | required mode =>
    dsimp only
    split
    · exact ⟨rfl, rfl⟩
    · exact ⟨rfl, rfl⟩

/-- What a step does to the policy and to the clock. -/
inductive Progress (s s' : GuardedState) : Prop
  | reads (reading : Option UInt64) (hobserves : Observes s.authorizer s'.authorizer reading)
      (hreadings : s'.readings = reading.toList ++ s.readings) (hdecided : s'.decided = s.decided)
  | decides (reading : UInt64) (decided : DecidedActivation)
      (hobserves : Observes s.authorizer s'.authorizer (some reading))
      (hreadings : s'.readings = reading :: s.readings) (hfree : s.decided = none)
      (hdecided : s'.decided = some decided)
      (hnext : nextMode s'.authorizer.mode decided.snapshot
        s'.authorizer.maxObservedWallClockMs = .ok (some decided.mode))
  | swaps (decided : DecidedActivation) (hdecided : s.decided = some decided)
      (hmode : s'.authorizer.mode = .required decided.mode)
      (hclock : s'.authorizer.maxObservedWallClockMs = s.authorizer.maxObservedWallClockMs)
      (hreadings : s'.readings = s.readings) (hnone : s'.decided = none)

end Steps

variable {s s' : GuardedState}

lemma GuardedState.progress {action : GuardedAction} (h : s.step action = some s') :
    Progress s s' := by
  cases action with
  | authenticate authentication context =>
    simp only [GuardedState.step, ite_none_left_eq_some, some.injEq] at h
    obtain ⟨-, rfl⟩ := h
    exact .reads _ (beginAuthenticate_observes s.authorizer authentication context) rfl rfl
  | finish index =>
    obtain ⟨request, -, h⟩ := bind_eq_some_iff.mp h
    cases h
    exact .reads none ⟨rfl, rfl⟩ rfl rfl
  | preflight observedNowMs =>
    simp only [GuardedState.step, ite_none_left_eq_some, some.injEq] at h
    obtain ⟨-, rfl⟩ := h
    exact .reads _ (preflight_observes s.authorizer observedNowMs) rfl rfl
  | decide snapshot observedNowMs =>
    simp only [GuardedState.step, ite_none_left_eq_some, some.injEq] at h
    obtain ⟨hfree, rfl⟩ := h
    have hnone : s.decided = none := by
      cases hdecided : s.decided with
      | none => rfl
      | some decided => simp [hdecided] at hfree
    cases hnext : nextMode (s.authorizer.observeWallClock observedNowMs).mode snapshot
        (s.authorizer.observeWallClock observedNowMs).maxObservedWallClockMs with
    | error error => exact .reads (some observedNowMs) ⟨rfl, rfl⟩ rfl hnone.symm
    | ok mode =>
      cases mode with
      | none => exact .reads (some observedNowMs) ⟨rfl, rfl⟩ rfl hnone.symm
      | some mode => exact .decides observedNowMs _ ⟨rfl, rfl⟩ rfl hnone rfl hnext
  | swap =>
    obtain ⟨decided, hdecided, h⟩ := bind_eq_some_iff.mp h
    cases h
    exact .swaps decided hdecided rfl rfl rfl rfl
  | observe observedNowMs =>
    cases h
    exact .reads (some observedNowMs) ⟨rfl, rfl⟩ rfl rfl

/-! ## Whole runs -/

section Runs

omit [Ed25519] [Base64]

lemma Observes.highest {authorizer authorizer' : ServiceAuthorizer} {reading : Option UInt64}
    (h : Observes authorizer authorizer' reading) {readings : List UInt64}
    (hhighest : Highest authorizer.maxObservedWallClockMs readings) :
    Highest authorizer'.maxObservedWallClockMs (reading.toList ++ readings) := by
  rw [h.clock]
  cases reading with
  | none => exact hhighest
  | some reading => exact hhighest.cons reading

lemma Highest.progress (hhighest : Highest s.authorizer.maxObservedWallClockMs s.readings)
    (h : Progress s s') : Highest s'.authorizer.maxObservedWallClockMs s'.readings := by
  cases h with
  | reads reading hobserves hreadings =>
    rw [hreadings]
    exact hobserves.highest hhighest
  | decides reading decided hobserves hreadings =>
    rw [hreadings]
    exact hobserves.highest hhighest
  | swaps decided hdecided hmode hclock hreadings =>
    rw [hclock, hreadings]
    exact hhighest

end Runs

/-- The clock of the authorizer is the highest of all readings. -/
theorem highest_of_reachable (h : guardedSystem.Reachable s) :
    Highest s.authorizer.maxObservedWallClockMs s.readings := by
  apply h.invariant (I := fun s => Highest s.authorizer.maxObservedWallClockMs s.readings)
  · intro s hinit
    obtain ⟨-, -, -, hreadings⟩ := hinit
    rw [hreadings]
    refine ⟨mem_singleton_self _, fun other hother => ?_⟩
    rw [mem_singleton.mp hother]
    exact UInt64.le_refl _
  · intro s s' hhighest hstep
    obtain ⟨action, hstep⟩ := hstep
    exact hhighest.progress (GuardedState.progress hstep)

/-- The step in which an activation was decided, at the readings that had been observed then. -/
structure Decision (decided : DecidedActivation) (before after : GuardedState) : Prop where
  reachable : guardedSystem.Reachable before
  step : guardedSystem.step before after
  free : before.decided = none
  waits : after.decided = some decided
  valid : nextMode after.authorizer.mode decided.snapshot
    after.authorizer.maxObservedWallClockMs = .ok (some decided.mode)

/-- An activation that waits for its swap was decided in some step, and the policy that it is to
replace has been active since. -/
theorem exists_decision {decided : DecidedActivation} (h : guardedSystem.Reachable s)
    (hdecided : s.decided = some decided) :
    ∃ before after, Decision decided before after ∧ guardedSystem.Steps after s ∧
      s.authorizer.mode = after.authorizer.mode := by
  obtain ⟨s₀, hinit, hsteps⟩ := h
  induction hsteps with
  | refl => cases hinit.2.2.1.symm.trans hdecided
  | @tail s s' hsteps hlast ih =>
    obtain ⟨action, hstep⟩ := hlast
    cases GuardedState.progress hstep with
    | reads reading hobserves hreadings hsame =>
      obtain ⟨before, after, hdecision, hafter, hmode⟩ := ih (hsame.symm.trans hdecided)
      exact ⟨before, after, hdecision, hafter.tail ⟨action, hstep⟩, hobserves.mode.trans hmode⟩
    | decides reading other hobserves hreadings hfree hother hnext =>
      obtain rfl := some.inj (hother.symm.trans hdecided)
      exact ⟨s, s', ⟨⟨s₀, hinit, hsteps⟩, ⟨action, hstep⟩, hfree, hother, hnext⟩,
        .refl, rfl⟩
    | swaps other hother hmode hclock hreadings hnone => cases hnone.symm.trans hdecided

/-! ## Expired policies -/

/-- Every call is turned away because the policy has expired. -/
structure RejectsExpired (authorizer : ServiceAuthorizer) : Prop where
  authenticate : ∀ authentication context,
    (authorizer.beginAuthenticate authentication context).1 =
      rejectExpiredPolicy (authentication.map ServiceAuthentication.serviceId)
  preflight : ∀ observedNowMs,
    (authorizer.preflightSignedPolicyValidity observedNowMs).1 = rejectExpiredPolicy none

/-- The active policy was signed and ends at a time. -/
structure ExpiresAt (mode : RequiredMode) (expiresAtMs : UInt64) : Prop where
  source : mode.trustPolicy.source = .signedSnapshot
  validity : mode.trustPolicy.receiverValidity = some ⟨.v2, some expiresAtMs⟩

section Expired

omit [Ed25519] [Base64]

variable {authorizer : ServiceAuthorizer} {mode : RequiredMode} {expiresAtMs : UInt64}

lemma ExpiresAt.isExpired (h : ExpiresAt mode expiresAtMs) {effectiveNowMs : UInt64}
    (hle : expiresAtMs ≤ effectiveNowMs) :
    trustPolicyIsExpired mode.trustPolicy effectiveNowMs = true := by
  unfold trustPolicyIsExpired
  rw [if_neg (not_not_intro h.source), h.validity]
  exact decide_eq_true hle

/-- A reading that is behind the others does not bring the clock back. -/
theorem le_observeWallClock (hle : expiresAtMs ≤ authorizer.maxObservedWallClockMs)
    (observedNowMs : UInt64) :
    expiresAtMs ≤ (authorizer.observeWallClock observedNowMs).maxObservedWallClockMs := by
  show expiresAtMs ≤ max authorizer.maxObservedWallClockMs observedNowMs
  rw [UInt64.le_iff_toNat_le] at hle
  rw [UInt64.le_iff_toNat_le, UInt64.toNat_max]
  omega

end Expired

lemma ExpiresAt.rejectsExpired {authorizer : ServiceAuthorizer} {mode : RequiredMode}
    {expiresAtMs : UInt64} (h : ExpiresAt mode expiresAtMs)
    (hmode : authorizer.mode = .required mode)
    (hle : expiresAtMs ≤ authorizer.maxObservedWallClockMs) : RejectsExpired authorizer := by
  refine ⟨?_, ?_⟩
  · intro authentication context
    unfold beginAuthenticate
    rw [hmode]
    dsimp only
    rw [if_pos (h.isExpired (le_observeWallClock hle context.nowMs))]
  · intro observedNowMs
    unfold preflightSignedPolicyValidity
    rw [hmode]
    dsimp only
    rw [if_pos (h.isExpired (le_observeWallClock hle observedNowMs))]

section Latch

omit [Ed25519] [Base64]

/-- A policy of a higher generation is active. -/
def Superseded (mode : RequiredMode) (s : GuardedState) : Prop :=
  ∃ generation, s.authorizer.trustPolicyGeneration = some generation ∧
    mode.trustPolicy.generation.getD 0 < generation

/-- What a decision of an activation says about its policy. -/
theorem swap_superseded {mode next : RequiredMode} {snapshot : VerifiedServiceTrustSnapshot}
    {activatedAtMs : UInt64}
    (h : nextMode (.required mode) snapshot activatedAtMs = .ok (some next)) :
    next.trustPolicy.generation = some snapshot.policy.generation ∧
      mode.trustPolicy.generation.getD 0 < snapshot.policy.generation := by
  obtain ⟨current, config, validity, hmode, -, -, -, hlt, -, rfl⟩ := nextMode_eq_some h
  cases hmode
  exact ⟨rfl, hlt⟩

end Latch

/-- From step to step the policy stays and the clock does not go back, or a policy of a higher
generation has been activated. -/
theorem Progress.latch {mode : RequiredMode} {expiresAtMs : UInt64}
    (hreachable : guardedSystem.Reachable s) (h : Progress s s')
    (hlatch : (s.authorizer.mode = .required mode ∧
      expiresAtMs ≤ s.authorizer.maxObservedWallClockMs) ∨ Superseded mode s) :
    (s'.authorizer.mode = .required mode ∧
      expiresAtMs ≤ s'.authorizer.maxObservedWallClockMs) ∨ Superseded mode s' := by
  have hobserved : ∀ reading, Observes s.authorizer s'.authorizer reading →
      (s'.authorizer.mode = .required mode ∧
        expiresAtMs ≤ s'.authorizer.maxObservedWallClockMs) ∨ Superseded mode s' := by
    intro reading hobserves
    unfold Superseded trustPolicyGeneration
    rw [hobserves.mode, hobserves.clock]
    cases reading with
    | none => exact hlatch
    | some reading =>
      exact hlatch.imp (fun hlatch => ⟨hlatch.1, le_observeWallClock hlatch.2 reading⟩) id
  cases h with
  | reads reading hobserves => exact hobserved reading hobserves
  | decides reading decided hobserves => exact hobserved _ hobserves
  | swaps decided hdecided hmode =>
    right
    obtain ⟨before, after, hdecision, -, hsame⟩ := exists_decision hreachable hdecided
    obtain ⟨current, -, -, hcurrent, -⟩ := nextMode_eq_some hdecision.valid
    have hnext := hdecision.valid
    rw [hcurrent] at hnext
    rw [← hsame] at hcurrent
    obtain ⟨hgeneration, hlt⟩ := swap_superseded hnext
    refine ⟨decided.snapshot.policy.generation, ?_, ?_⟩
    · unfold trustPolicyGeneration
      rw [hmode]
      exact hgeneration
    · -- the policy that is replaced is the expired one or one that superseded it
      rcases hlatch with ⟨hmode, -⟩ | ⟨generation, hactive, hhigher⟩
      · cases hcurrent.symm.trans hmode
        exact hlt
      · unfold trustPolicyGeneration at hactive
        rw [hcurrent] at hactive
        change current.trustPolicy.generation = some generation at hactive
        rw [hactive] at hlt
        exact UInt64.lt_trans hhigher hlt

/-- A policy took the place of another one, on some readings of the clock. -/
structure ActivatedOn (current next : RequiredMode) (policy : ServiceTrustPolicyPayload)
    (config : ServiceTrustReceiverValidityConfig) (readings : List UInt64)
    (activatedAtMs : UInt64) : Prop where
  configured : current.trustPolicy.receiverValidityConfig = some config
  generation : next.trustPolicy.generation = some policy.generation
  newer : current.trustPolicy.generation.getD 0 < policy.generation
  loadedAtMs : next.trustPolicy.loadedAtMs = some activatedAtMs
  highest : Highest activatedAtMs readings
  window : (policy.version = .ok .v1 ∧ config.allowV1 = true) ∨
    ∃ expiresAtMs, policy.InWindow activatedAtMs config expiresAtMs ∧ ExpiresAt next expiresAtMs

lemma Decision.activatedOn {decided : DecidedActivation} (h : Decision decided s s') :
    ∃ current config, s'.authorizer.mode = .required current ∧
      ActivatedOn current decided.mode decided.snapshot.policy config s'.readings
        s'.authorizer.maxObservedWallClockMs := by
  have hhighest := highest_of_reachable
    (h.reachable.trans (.single h.step))
  obtain ⟨current, config, validity, hcurrent, -, hconfig, hvalidity, hlt, -, hmode⟩ :=
    nextMode_eq_some h.valid
  refine ⟨current, config, hcurrent, hconfig, ?_, hlt, ?_, hhighest, ?_⟩
  · rw [hmode]
    rfl
  · rw [hmode]
    rfl
  · rcases ServiceTrustPolicyPayload.of_validateReceiverValidity hvalidity with
      ⟨hversion, hallowed, -⟩ | ⟨-, expiresAtMs, hwindow, rfl⟩
    · exact .inl ⟨hversion, hallowed⟩
    · refine .inr ⟨expiresAtMs, hwindow, ?_⟩
      rw [hmode]
      exact ⟨rfl, rfl⟩

/-- The step from `s` to `s'` activates the policy that an earlier step, from `before` to `after`,
has decided on. The policy was checked at the highest of all readings up to that decision. -/
def CheckedActivation (s s' : GuardedState) : Prop :=
  ∃ decided before after current config, Decision decided before after ∧
    guardedSystem.Steps after s ∧ s.decided = some decided ∧
    s.authorizer.mode = .required current ∧ s'.authorizer.mode = .required decided.mode ∧
    ActivatedOn current decided.mode decided.snapshot.policy config after.readings
      after.authorizer.maxObservedWallClockMs

/-- Once a reading has reached the end of the active policy, every call is turned away until a
policy of a higher generation is active. A policy becomes active only if it is in its window at
the highest reading that was observed until its activation decided, or has no window and the
receiver allows that. -/
theorem expiry_latch (s : GuardedState) (h : guardedSystem.Reachable s) :
    (∀ mode expiresAtMs, s.authorizer.mode = .required mode → ExpiresAt mode expiresAtMs →
      (∃ reading ∈ s.readings, expiresAtMs ≤ reading) →
      ∀ s', guardedSystem.Steps s s' → RejectsExpired s'.authorizer ∨ Superseded mode s') ∧
    (∀ s', guardedSystem.step s s' → s'.authorizer.mode ≠ s.authorizer.mode →
      CheckedActivation s s') := by
  refine ⟨?_, ?_⟩
  · intro mode expiresAtMs hmode hexpires hreached s' hsteps
    obtain ⟨reading, hreading, hle⟩ := hreached
    have hclock : expiresAtMs ≤ s.authorizer.maxObservedWallClockMs :=
      UInt64.le_trans hle ((highest_of_reachable h).le reading hreading)
    have hlatch : (s'.authorizer.mode = .required mode ∧
        expiresAtMs ≤ s'.authorizer.maxObservedWallClockMs) ∨ Superseded mode s' := by
      induction hsteps with
      | refl => exact .inl ⟨hmode, hclock⟩
      | tail hbefore hlast ih =>
        obtain ⟨action, hlast⟩ := hlast
        exact (GuardedState.progress hlast).latch (h.trans hbefore) ih
    exact hlatch.imp (fun hlatch => hexpires.rejectsExpired hlatch.1 hlatch.2) id
  · intro s' hstep hchanged
    obtain ⟨action, hstep⟩ := hstep
    cases GuardedState.progress hstep with
    | reads reading hobserves => exact absurd hobserves.mode hchanged
    | decides reading decided hobserves => exact absurd hobserves.mode hchanged
    | swaps decided hdecided hmode =>
      -- readings of other threads may have come since, but no other activation
      obtain ⟨before, after, hdecision, hafter, hsame⟩ := exists_decision h hdecided
      obtain ⟨current, config, hcurrent, hactivated⟩ := hdecision.activatedOn
      exact ⟨decided, before, after, current, config, hdecision, hafter, hdecided,
        hsame.trans hcurrent, hmode, hactivated⟩

end Process

/-! ## A clock that steps back, and a policy without a window -/

section Example

attribute [local instance] checksumEd25519 standardBase64

def gatewayPolicy (version : ServiceTrustPolicyVersion) (generation issuedAtMs : UInt64)
    (expiresAtMs : Option UInt64) : ServiceTrustPolicyPayload where
  schema := version.policySchema
  clusterId := "inferlab-primary"
  generation := generation
  issuedAtMs := issuedAtMs
  expiresAtMs := expiresAtMs
  trustedCredentials := [
    ⟨"gateway-primary", "key-a", "AAAAAAAAAAAAAAAAAAAAAAAAAAAAAAAAAAAAAAAAAAA="⟩]
  revokedServiceIds := []
  revokedCredentials := []
  gatewayServiceIds := ["gateway-primary"]

def gatewaySnapshot (policy : ServiceTrustPolicyPayload) : VerifiedServiceTrustSnapshot where
  policy := policy
  signingKeyId := "root-a"
  signature := ""
  compiled := ⟨gatewayKeys, ["gateway-primary"]⟩

/-- A receiver that was started at time 2000. -/
def startedWith (policy : ServiceTrustPolicyPayload) (allowV1 : Bool) : GuardedState where
  authorizer := (requiredFromSignedSnapshot (gatewaySnapshot policy) [] []
    ⟨allowV1, 1000, 1000000⟩ 30000 5000 2000).toOption.getD .disabled
  inFlight := []
  decided := none
  readings := [2000]

lemma reachable_startedWith {policy : ServiceTrustPolicyPayload} {allowV1 : Bool}
    {actions : List GuardedAction} {s : GuardedState}
    (hstarted : (requiredFromSignedSnapshot (gatewaySnapshot policy) [] []
      ⟨allowV1, 1000, 1000000⟩ 30000 5000 2000).isOk = true)
    (hactions : actions.foldlM GuardedState.step (startedWith policy allowV1) = some s) :
    guardedSystem.Reachable s := by
  cases hrequired : requiredFromSignedSnapshot (gatewaySnapshot policy) [] []
    ⟨allowV1, 1000, 1000000⟩ 30000 5000 2000 with
  | error error =>
    rw [hrequired] at hstarted
    cases hstarted
  | ok authorizer =>
    have hauthorizer : (startedWith policy allowV1).authorizer = authorizer := by
      unfold startedWith
      rw [hrequired]
      rfl
    have hclock : authorizer.maxObservedWallClockMs = 2000 := by
      obtain ⟨_, _, h⟩ := of_bind hrequired
      obtain ⟨_, _, h⟩ := of_bind h
      cases h
      rfl
    refine ⟨startedWith policy allowV1, ⟨?_, rfl, rfl, ?_⟩,
      System.Steps.of_actions (fun _ action _ h => ⟨action, h⟩) hactions⟩
    · rw [hauthorizer]
      exact .signed hrequired
    · rw [hauthorizer, hclock]
      rfl

/-- The mode of such a receiver with a policy. -/
def gatewayMode (policy : ServiceTrustPolicyPayload) (loadedAtMs : UInt64)
    (validity : ServiceTrustReceiverValidity) (allowV1 : Bool) : RequiredMode where
  keys := gatewayKeys
  gatewayServiceIds := ["gateway-primary"]
  maxAgeMs := 30000
  maxFutureSkewMs := 5000
  trustPolicy := signedProvenance (gatewaySnapshot policy) loadedAtMs [] [] validity
    ⟨allowV1, 1000, 1000000⟩

/-- The clock reaches the end of a policy and steps back. -/
def steppedBack : GuardedState where
  authorizer := ⟨.required (gatewayMode (gatewayPolicy .v2 1 1000 (some 10000)) 2000
    ⟨.v2, some 10000⟩ false), [], 10000⟩
  inFlight := []
  decided := none
  readings := [3000, 10000, 2000]

/-- The next policy is checked at the highest reading, not at the time of its activation. -/
def renewal : DecidedActivation where
  snapshot := gatewaySnapshot (gatewayPolicy .v2 2 9000 (some 50000))
  mode := gatewayMode (gatewayPolicy .v2 2 9000 (some 50000)) 10000 ⟨.v2, some 50000⟩ false

def renewing : GuardedState :=
  { steppedBack with decided := some renewal, readings := [4000, 3000, 10000, 2000] }

def renewed : GuardedState :=
  { renewing with
    authorizer := { steppedBack.authorizer with mode := .required renewal.mode }
    decided := none }

theorem expiry_latch_steppedBack :
    guardedSystem.Reachable steppedBack ∧
      RejectsExpired steppedBack.authorizer ∧
    guardedSystem.Reachable renewing ∧ CheckedActivation renewing renewed := by
  have hactions : [GuardedAction.observe 10000, .observe 3000].foldlM GuardedState.step
      (startedWith (gatewayPolicy .v2 1 1000 (some 10000)) false) = some steppedBack := by
    decide +kernel
  have hreachable := reachable_startedWith (by decide +kernel) hactions
  have hdecides : steppedBack.step (.decide renewal.snapshot 4000) = some renewing := by
    decide +kernel
  have hrenewing : guardedSystem.Reachable renewing :=
    hreachable.trans (.single ⟨_, hdecides⟩)
  refine ⟨hreachable, ?_, hrenewing, ?_⟩
  · rcases (expiry_latch steppedBack hreachable).1 _ 10000 rfl ⟨rfl, rfl⟩
      ⟨10000, by decide, by decide⟩ steppedBack .refl with
      hrejects | ⟨generation, hactive, hlt⟩
    · exact hrejects
    · obtain rfl := some.inj hactive
      exact absurd hlt (by decide)
  · exact (expiry_latch renewing hrenewing).2 renewed ⟨.swap, rfl⟩ (by decide +kernel)

/-- The activation of a policy that was issued long after the tolerated skew. -/
def legacyActivation : DecidedActivation where
  snapshot := gatewaySnapshot (gatewayPolicy .v1 2 1000000000 none)
  mode := gatewayMode (gatewayPolicy .v1 2 1000000000 none) 3000 ⟨.v1, none⟩ true

theorem legacy_policy_activated :
    ∃ (s s' : GuardedState) (current : RequiredMode) (config : ServiceTrustReceiverValidityConfig),
      guardedSystem.Reachable s ∧ guardedSystem.step s s' ∧
      s.authorizer.mode = .required current ∧
      current.trustPolicy.receiverValidityConfig = some config ∧
      s.decided = some legacyActivation ∧ s'.authorizer.mode = .required legacyActivation.mode ∧
      s.readings = [3000, 2000] ∧
      3000 + config.maxFutureSkewMs.toNat < legacyActivation.snapshot.policy.issuedAtMs.toNat := by
  have hactions : [GuardedAction.decide legacyActivation.snapshot 3000].foldlM GuardedState.step
      (startedWith (gatewayPolicy .v1 1 1000 none) true) =
      some ⟨⟨.required (gatewayMode (gatewayPolicy .v1 1 1000 none) 2000 ⟨.v1, none⟩ true), [],
        3000⟩, [], some legacyActivation, [3000, 2000]⟩ := by decide +kernel
  have hreachable := reachable_startedWith (by decide +kernel) hactions
  exact ⟨_, _, _, _, hreachable, ⟨.swap, rfl⟩, rfl, rfl, rfl, rfl, rfl, by decide⟩

end Example

end InferLab.Receiver
