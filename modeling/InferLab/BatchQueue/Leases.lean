import InferLab.BatchQueue.Recovery

/-!
# Lease fencing of the batch queue

The log of a queue is a lawful history of leases, through all calls, crashes and restarts.
`lease_fencing` reads off it what consumers rely on: a token names one claim, a job has one
active claim, and a token counts only while its claim is active and its lease runs.
-/

namespace InferLab.BatchQueue

open List

open Lease (Outstanding)

variable {Value : Type} {codec : Codec Value} {path : String} {inner : StoreInner Value}
  {w : World Value} {action : Action Value}

/-! ## The log only grows -/

lemma leaseEvents_subset {es es' : List (WalEvent Value)} (h : es <+: es') :
    leaseEvents es ⊆ leaseEvents es' :=
  (h.sublist.filterMap _).subset

variable [BEq Value]

lemma World.Sound.appended_step (h : w.Sound codec) (hb : Bounded w.disk.written) :
    w.disk.appended <+: (w.step codec path action).disk.appended := by
  cases w with
  | running inner =>
    cases action with
    | call request nowMs outcomes =>
      have hrecords : Records codec (inner.withOutcomes outcomes)
          ((inner.withOutcomes outcomes).call codec nowMs request).inner := call_records request
      exact hrecords.appended_isPrefix
    | stop => exact prefix_rfl
    | reopen => exact prefix_rfl
  | stopped disk =>
    cases action with
    | call request nowMs outcomes => exact prefix_rfl
    | stop => exact prefix_rfl
    | reopen =>
      obtain ⟨data, hrecoverable⟩ := h
      obtain ⟨es, torn, inner, hes, hreopened, -, happended, -⟩ :=
        hrecoverable.reopened hb path
      simp only [World.step, hreopened.opens]
      show disk.appended <+: inner.wal.disk.appended
      rw [happended]
      rcases hes with rfl | ⟨e, -, rfl⟩
      · exact prefix_rfl
      · exact prefix_append _ _

lemma appended_mono {before later : List (Action Value)}
    (hb : BoundedRun codec path (before ++ later)) :
    (World.after codec path before).disk.appended <+:
      (World.after codec path (before ++ later)).disk.appended := by
  induction later using List.reverseRecOn with
  | nil => rw [append_nil]
  | append_singleton later action ih =>
    rw [← append_assoc] at hb ⊢
    have hearlier := hb.earlier (prefix_append (before ++ later) [action])
    rw [World.after_concat]
    exact (ih hearlier).trans
      ((World.sound_after hearlier).appended_step (hearlier _ prefix_rfl))

/-! ## What consumers are answered -/

/-- The action is a claim, and it is answered with a job. -/
def Issues (codec : Codec Value) (w : World Value) (action : Action Value)
    (response : ClaimResponse Value) : Prop :=
  w.answer codec action = some (.ok (.claimed (some response)))

/-- The job, the consumer and the token that a call presents. -/
def Call.presents : Call Value → Option (String × String × String)
  | .acknowledge jobId request => some (jobId, request.consumerId, request.claimToken)
  | .fail jobId request => some (jobId, request.consumerId, request.claimToken)
  | _ => none

/-- The action presents a token at the clock reading `nowMs`, and is answered with success. -/
def Succeeds (codec : Codec Value) (w : World Value) (action : Action Value)
    (jobId consumerId claimToken : String) (nowMs : ℕ) : Prop :=
  ∃ request outcomes response, action = .call request nowMs outcomes ∧
    request.presents = some (jobId, consumerId, claimToken) ∧
    w.answer codec action = some (.ok response)

omit [BEq Value] in
lemma Reply.map_eq_ok {α β : Type} {f : α → β} {reply : Reply Value α} {b : β}
    (h : (reply.map f).result = .ok b) : ∃ a, reply.result = .ok a ∧ f a = b := by
  unfold Reply.map at h
  cases hresult : reply.result with
  | error error => simp [hresult, Except.map] at h
  | ok a => exact ⟨a, rfl, by simpa [hresult, Except.map] using h⟩

lemma call_issues {request : Call Value} {nowMs : ℕ} {response : ClaimResponse Value}
    (h : (inner.call codec nowMs request).result = .ok (.claimed (some response))) :
    ∃ mid, Records codec inner mid ∧
      Claims codec mid response (inner.call codec nowMs request).inner := by
  cases request with
  | claim request =>
    obtain ⟨answer, hanswer, heq⟩ := Reply.map_eq_ok h
    obtain rfl : answer = some response := by simpa using heq
    exact claim_eq_ok hanswer
  | _ =>
    obtain ⟨answer, -, heq⟩ := Reply.map_eq_ok h
    simp at heq

lemma call_presents {request : Call Value} {nowMs : ℕ} {response : Response Value}
    {jobId consumerId claimToken : String}
    (hp : request.presents = some (jobId, consumerId, claimToken))
    (h : (inner.call codec nowMs request).result = .ok response) :
    ∃ job lease, Held inner.data jobId claimToken job lease ∧ lease.consumerId = consumerId ∧
      nowMs < lease.visibilityDeadlineMs := by
  cases request with
  | acknowledge jobId' request =>
    obtain ⟨rfl, rfl, rfl⟩ : jobId' = jobId ∧ request.consumerId = consumerId ∧
      request.claimToken = claimToken := by simpa [Call.presents] using hp
    obtain ⟨answer, hanswer, -⟩ := Reply.map_eq_ok h
    obtain ⟨job, lease, -, hheld⟩ := requireLease_eq_ok (acknowledge_eq_ok hanswer)
    exact ⟨job, lease, hheld⟩
  | fail jobId' request =>
    obtain ⟨rfl, rfl, rfl⟩ : jobId' = jobId ∧ request.consumerId = consumerId ∧
      request.claimToken = claimToken := by simpa [Call.presents] using hp
    obtain ⟨answer, hanswer, -⟩ := Reply.map_eq_ok h
    obtain ⟨job, lease, -, hheld⟩ := requireLease_eq_ok (fail_eq_ok hanswer)
    exact ⟨job, lease, hheld⟩
  | _ => simp [Call.presents] at hp

/-- A token is issued when no claim of the log has it, and the claim is then in the log. -/
theorem Issues.fresh {response : ClaimResponse Value} (h : Issues codec w action response)
    (hsound : w.Sound codec) (hb : Bounded (w.step codec path action).disk.written) :
    (∀ r, .grant r response.claimToken ∉ leaseEvents w.disk.appended) ∧
      .grant response.jobId response.claimToken ∈
        leaseEvents (w.step codec path action).disk.appended := by
  cases w with
  | stopped disk => simp [Issues, World.answer] at h
  | running inner =>
    cases action with
    | stop => simp [Issues, World.answer] at h
    | reopen => simp [Issues, World.answer] at h
    | call request nowMs outcomes =>
      obtain ⟨htidy, hrecoverable⟩ := hsound
      obtain ⟨mid, hrecords, htoken, e, hlease, hrecorded, hafter⟩ :=
        call_issues (Option.some.inj h)
      have hdisk : (World.step codec path (.running inner)
          (.call request nowMs outcomes)).disk = mid.wal.disk.append codec e := by
        rw [← (StoreInner.record_eq_ok hrecorded).2.2, ← hafter]
        rfl
      have htidy' : Tidy mid := hrecords.tidy htidy
      have hbounded : Bounded mid.wal.disk.written := by
        rw [hdisk, ← (StoreInner.record_eq_ok hrecorded).2.2] at hb
        exact hb.sublist htidy'.written_sublist
      have hmid := hrecords.recoverable htidy
        ⟨hrecoverable.replayed, hrecoverable.tracks, hrecoverable.file⟩ hbounded
      constructor
      · intro r hgrant
        rw [htoken] at hgrant
        exact hmid.tracks.token_fresh r (leaseEvents_subset hrecords.appended_isPrefix hgrant)
      · rw [hdisk]
        show _ ∈ leaseEvents (mid.wal.disk.appended ++ [e])
        rw [leaseEvents_concat, hlease]
        simp

lemma Succeeds.held {jobId consumerId claimToken : String} {nowMs : ℕ}
    (h : Succeeds codec w action jobId consumerId claimToken nowMs) :
    ∃ inner job lease, w = .running inner ∧ Held inner.data jobId claimToken job lease ∧
      lease.consumerId = consumerId ∧ nowMs < lease.visibilityDeadlineMs := by
  obtain ⟨request, outcomes, response, rfl, hp, hanswer⟩ := h
  cases w with
  | stopped disk => simp [World.answer] at hanswer
  | running inner =>
    obtain ⟨job, lease, hheld⟩ := call_presents hp (Option.some.inj hanswer)
    exact ⟨inner, job, lease, rfl, hheld⟩

/-- Through all calls, clock readings, crashes and restarts: no token is issued twice; a job has
at most one active claim, the outstanding one of the log; a call that presents a token succeeds
only for the job's current claim and consumer, before the deadline; and never once the claim has
ended. -/
theorem lease_fencing (codec : Codec Value) (path : String) (actions : List (Action Value))
    (hb : BoundedRun codec path actions) :
    (∀ before action between action' response response',
      before ++ [action] ++ between ++ [action'] <+: actions →
      Issues codec (World.after codec path before) action response →
      Issues codec (World.after codec path (before ++ [action] ++ between)) action' response' →
        response.claimToken ≠ response'.claimToken) ∧
    (∀ before jobId, before <+: actions →
      (∀ token token',
        Outstanding (leaseEvents (World.after codec path before).disk.appended) jobId token →
        Outstanding (leaseEvents (World.after codec path before).disk.appended) jobId token' →
          token = token') ∧
      ∀ inner token, World.after codec path before = .running inner →
        (Outstanding (leaseEvents inner.wal.disk.appended) jobId token ↔
          ∃ job lease, Held inner.data jobId token job lease)) ∧
    (∀ before action jobId consumerId token nowMs, before ++ [action] <+: actions →
      Succeeds codec (World.after codec path before) action jobId consumerId token nowMs →
        ∃ inner job lease, World.after codec path before = .running inner ∧
          Held inner.data jobId token job lease ∧ lease.consumerId = consumerId ∧
          nowMs < lease.visibilityDeadlineMs) ∧
    ∀ before between action token, before ++ between ++ [action] <+: actions →
      (∃ r, .finish r token ∈ leaseEvents (World.after codec path before).disk.appended) →
      ∀ jobId consumerId nowMs,
        ¬ Succeeds codec (World.after codec path (before ++ between)) action jobId consumerId
          token nowMs := by
  refine ⟨?_, ?_, fun _ _ _ _ _ _ _ hsucceeds => hsucceeds.held, ?_⟩
  · intro before action between action' response response' hpre hissues hissues' heq
    have hsecond : before ++ [action] ++ between <+: actions :=
      (prefix_append _ _).trans hpre
    have hfirst : before ++ [action] <+: actions := (prefix_append _ _).trans hsecond
    have hstart : before <+: actions := (prefix_append _ _).trans hfirst
    -- the first token is in the log from then on, and the second one was not in it
    have hgrant := (hissues.fresh (World.sound_after (hb.earlier hstart))
      (by rw [← World.after_concat]; exact hb _ hfirst)).2
    rw [← World.after_concat] at hgrant
    have hgrant' := leaseEvents_subset (appended_mono (hb.earlier hsecond)) hgrant
    have hfresh := (hissues'.fresh (World.sound_after (hb.earlier hsecond))
      (by rw [← World.after_concat]; exact hb _ hpre)).1
    exact hfresh _ (heq ▸ hgrant')
  · intro before jobId hpre
    have hsound := World.sound_after (hb.earlier hpre)
    refine ⟨fun token token' h h' => ?_, fun inner token hrunning => ?_⟩
    · obtain ⟨data, hrecoverable⟩ := hsound.recoverable
      exact hrecoverable.tracks.agrees.outstanding_unique h h'
    · rw [hrunning] at hsound
      exact hsound.2.tracks.outstanding_iff jobId token
  · intro before between action token hpre hfinished jobId consumerId nowMs hsucceeds
    have hlater : before ++ between <+: actions := (prefix_append _ _).trans hpre
    obtain ⟨r, hfinish⟩ := hfinished
    obtain ⟨inner, job, lease, hrunning, hheld, -⟩ := hsucceeds.held
    -- the claim would be outstanding in a log that has its end
    have hsound := World.sound_after (hb.earlier hlater)
    have hfinish' := leaseEvents_subset (appended_mono (hb.earlier hlater)) hfinish
    rw [hrunning] at hsound hfinish'
    have houtstanding := (hsound.2.tracks.outstanding_iff jobId token).mpr ⟨job, lease, hheld⟩
    exact houtstanding.unfinished r hfinish'

/-- A job is claimed, its lease runs out, and it is claimed again. -/
def redelivery : List (Action Unit) :=
  [.reopen,
    .call (.enqueue { idempotencyKey := "crash-job", payload := () }) 100 [],
    .call (.claim { consumerId := "consumer-a", visibilityTimeoutMs := 50 }) 110 [],
    .call (.claim { consumerId := "consumer-b", visibilityTimeoutMs := 50 }) 161 []]

theorem lease_fencing_redelivery :
    ∃ response response',
      Issues exampleCodec (World.after exampleCodec "events.wal" (redelivery.take 2))
        (.call (.claim { consumerId := "consumer-a", visibilityTimeoutMs := 50 }) 110 [])
        response ∧
      Issues exampleCodec (World.after exampleCodec "events.wal" (redelivery.take 3))
        (.call (.claim { consumerId := "consumer-b", visibilityTimeoutMs := 50 }) 161 [])
        response' ∧
      response.claimToken ≠ response'.claimToken := by
  have hb : BoundedRun exampleCodec "events.wal" redelivery :=
    boundedRun_iff.mpr (by decide +kernel)
  have hfirst : Issues exampleCodec (World.after exampleCodec "events.wal" (redelivery.take 2))
      (.call (.claim { consumerId := "consumer-a", visibilityTimeoutMs := 50 }) 110 [])
      { jobId := "batch-00000001", idempotencyKey := "crash-job", payload := (), attempt := 1,
        maxAttempts := 3, consumerId := "consumer-a", claimToken := "claim-000000000001",
        visibilityDeadlineMs := 160 } := by
    unfold Issues
    decide +kernel
  have hsecond : Issues exampleCodec (World.after exampleCodec "events.wal" (redelivery.take 3))
      (.call (.claim { consumerId := "consumer-b", visibilityTimeoutMs := 50 }) 161 [])
      { jobId := "batch-00000001", idempotencyKey := "crash-job", payload := (), attempt := 2,
        maxAttempts := 3, consumerId := "consumer-b", claimToken := "claim-000000000002",
        visibilityDeadlineMs := 211 } := by
    unfold Issues
    decide +kernel
  exact ⟨_, _, hfirst, hsecond, (lease_fencing exampleCodec "events.wal" redelivery hb).1
    (redelivery.take 2) _ [] _ _ _ prefix_rfl hfirst hsecond⟩

end InferLab.BatchQueue
