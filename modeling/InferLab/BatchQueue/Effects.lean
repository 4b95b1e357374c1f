import InferLab.BatchQueue.Recovery

/-!
# What an event does to the jobs

`Applies` lists the ways in which `apply_event` succeeds. An event changes one job, and
`JobRecord.Continues` says what it leaves of it: the request it was enqueued with, and
everything once the job is completed or a dead letter. `QueueData.Consistent codec` is what all
jobs of a queue have in common, because no event is recorded that is not `Due`.
-/

namespace InferLab.BatchQueue

open Option Except

open Std (TreeMap)

variable {Value : Type} {codec : Codec Value} {data data' : QueueData Value} {e : WalEvent Value}
  {jobId claimToken : String} {job job' job'' : JobRecord Value} {lease : ClaimLease}

/-- The data after an event that applies. -/
inductive Applies (data : QueueData Value) : WalEvent Value → QueueData Value → Prop
  | enqueued {jobId idempotencyKey : String} {payload : Value} {maxAttempts atMs : ℕ}
      (hnew : data.jobs[jobId]? = none)
      (hkey : data.idempotencyIndex[idempotencyKey]? = none) :
      Applies data (.enqueued jobId idempotencyKey payload maxAttempts atMs) { data with
        jobs := data.jobs.insert jobId {
          id := jobId, idempotencyKey, payload, maxAttempts, attempts := 0, status := .pending,
          activeClaim := none, createdAtMs := atMs, updatedAtMs := atMs, lastError := none }
        pending := increment data.pending
        idempotencyIndex := data.idempotencyIndex.insert idempotencyKey jobId
        nextJobNumber := max data.nextJobNumber (increment (parseSequence jobId "batch-")) }
  | claimed {jobId consumerId claimToken : String} {visibilityDeadlineMs attempt atMs : ℕ}
      {job : JobRecord Value} (hget : data.jobs[jobId]? = some job)
      (hpending : job.status = .pending)
      (hattempt : attempt = saturatingAdd u32Max job.attempts 1) :
      Applies data (.claimed jobId consumerId claimToken visibilityDeadlineMs attempt atMs)
        { data with
          jobs := data.jobs.insert jobId { job with
            status := .claimed, attempts := attempt, updatedAtMs := atMs,
            activeClaim := some { consumerId, claimToken, visibilityDeadlineMs } }
          pending := data.pending - 1
          claimed := increment data.claimed
          claimsTotal := increment data.claimsTotal
          redeliveriesTotal :=
            if attempt > 1 then increment data.redeliveriesTotal else data.redeliveriesTotal
          nextClaimNumber :=
            max data.nextClaimNumber (increment (parseSequence claimToken "claim-")) }
  | released {jobId claimToken reason : String} {expired : Bool} {atMs : ℕ}
      {job : JobRecord Value} {lease : ClaimLease} (hheld : Held data jobId claimToken job lease) :
      Applies data (.released jobId claimToken reason expired atMs) { data with
        jobs := data.jobs.insert jobId { job with
          status := .pending, activeClaim := none, updatedAtMs := atMs, lastError := some reason }
        explicitFailuresTotal :=
          if expired then data.explicitFailuresTotal else increment data.explicitFailuresTotal
        claimed := data.claimed - 1
        pending := increment data.pending }
  | acknowledged {jobId claimToken : String} {atMs : ℕ}
      {job : JobRecord Value} {lease : ClaimLease} (hheld : Held data jobId claimToken job lease) :
      Applies data (.acknowledged jobId claimToken atMs) { data with
        jobs := data.jobs.insert jobId { job with
          status := .completed, activeClaim := none, updatedAtMs := atMs }
        acknowledgmentsTotal := increment data.acknowledgmentsTotal
        claimed := data.claimed - 1
        completed := increment data.completed }
  | deadLettered {jobId claimToken reason : String} {expired : Bool} {atMs : ℕ}
      {job : JobRecord Value} {lease : ClaimLease} (hheld : Held data jobId claimToken job lease) :
      Applies data (.deadLettered jobId claimToken reason expired atMs) { data with
        jobs := data.jobs.insert jobId { job with
          status := .deadLetter, activeClaim := none, updatedAtMs := atMs,
          lastError := some reason }
        explicitFailuresTotal :=
          if expired then data.explicitFailuresTotal else increment data.explicitFailuresTotal
        deadLetteredTotal := increment data.deadLetteredTotal
        claimed := data.claimed - 1
        deadLetter := increment data.deadLetter }

lemma transitionClaimedJob_eq_ok (h : transitionClaimedJob data jobId claimToken = .ok job) :
    ∃ lease, Held data jobId claimToken job lease := by
  unfold transitionClaimedJob at h
  cases hget : data.jobs[jobId]? with
  | none => simp [hget] at h
  | some job' =>
    simp only [hget] at h
    split_ifs at h with hinactive
    obtain rfl := ok.inj h
    simp only [not_or, not_not, any_eq_true, beq_iff_eq] at hinactive
    obtain ⟨hstatus, lease, hactive, htoken⟩ := hinactive
    exact ⟨lease, hget, hstatus, hactive, htoken⟩

lemma applyEvent_cases (h : applyEvent data e = .ok data') : Applies data e data' := by
  cases e with
  | enqueued jobId idempotencyKey payload maxAttempts atMs =>
    simp only [applyEvent, enqueuedJob, TreeMap.contains_eq_isSome_getElem?] at h
    split_ifs at h with hjob hkey
    obtain rfl := ok.inj h
    exact .enqueued (by simpa using hjob) (by simpa using hkey)
  | claimed jobId consumerId claimToken visibilityDeadlineMs attempt atMs =>
    simp only [applyEvent] at h
    cases hget : data.jobs[jobId]? with
    | none => simp [hget] at h
    | some job =>
      simp only [hget] at h
      by_cases hinvalid : job.status ≠ .pending ∨ attempt ≠ saturatingAdd u32Max job.attempts 1
      · simp [if_pos hinvalid] at h
      · rw [if_neg hinvalid] at h
        obtain rfl := ok.inj h
        simp only [not_or, not_not] at hinvalid
        exact .claimed hget hinvalid.1 hinvalid.2
  | released jobId claimToken =>
    simp only [applyEvent] at h
    cases hfound : transitionClaimedJob data jobId claimToken with
    | error error => simp [hfound] at h
    | ok job =>
      simp only [hfound] at h
      obtain rfl := ok.inj h
      obtain ⟨lease, hheld⟩ := transitionClaimedJob_eq_ok hfound
      exact .released hheld
  | acknowledged jobId claimToken =>
    simp only [applyEvent] at h
    cases hfound : transitionClaimedJob data jobId claimToken with
    | error error => simp [hfound] at h
    | ok job =>
      simp only [hfound] at h
      obtain rfl := ok.inj h
      obtain ⟨lease, hheld⟩ := transitionClaimedJob_eq_ok hfound
      exact .acknowledged hheld
  | deadLettered jobId claimToken =>
    simp only [applyEvent] at h
    cases hfound : transitionClaimedJob data jobId claimToken with
    | error error => simp [hfound] at h
    | ok job =>
      simp only [hfound] at h
      obtain rfl := ok.inj h
      obtain ⟨lease, hheld⟩ := transitionClaimedJob_eq_ok hfound
      exact .deadLettered hheld

lemma settle_cases (data : QueueData Value) (e : WalEvent Value) :
    Applies data e (settle data e) ∨ settle data e = data := by
  cases happly : applyEvent data e with
  | ok data' => exact .inl (settle_of_ok happly ▸ applyEvent_cases happly)
  | error error => exact .inr (by simp [settle, happly])

/-! ## What is left of a job -/

/-- Later events leave the request of a job, and all of a job that is completed or a dead
letter. -/
structure JobRecord.Continues (job job' : JobRecord Value) : Prop where
  id : job'.id = job.id
  idempotencyKey : job'.idempotencyKey = job.idempotencyKey
  payload : job'.payload = job.payload
  maxAttempts : job'.maxAttempts = job.maxAttempts
  final : job.status = .completed ∨ job.status = .deadLetter → job' = job

lemma JobRecord.Continues.refl : job.Continues job :=
  ⟨rfl, rfl, rfl, rfl, fun _ => rfl⟩

lemma JobRecord.Continues.trans (h : job.Continues job') (h' : job'.Continues job'') :
    job.Continues job'' := by
  constructor
  case id => rw [h'.id, h.id]
  case idempotencyKey => rw [h'.idempotencyKey, h.idempotencyKey]
  case payload => rw [h'.payload, h.payload]
  case maxAttempts => rw [h'.maxAttempts, h.maxAttempts]
  case final =>
    intro hfinal
    have hsame := h.final hfinal
    rw [h'.final (hsame ▸ hfinal), hsame]

/-- Every job is still there. -/
def JobsKept (jobs jobs' : TreeMap String (JobRecord Value)) : Prop :=
  ∀ (id : String) (job : JobRecord Value), jobs[id]? = some job →
    ∃ job', jobs'[id]? = some job' ∧ job.Continues job'

lemma JobsKept.refl {jobs : TreeMap String (JobRecord Value)} : JobsKept jobs jobs :=
  fun _ job hget => ⟨job, hget, .refl⟩

lemma JobsKept.trans {jobs jobs' jobs'' : TreeMap String (JobRecord Value)}
    (h : JobsKept jobs jobs') (h' : JobsKept jobs' jobs'') : JobsKept jobs jobs'' := by
  intro id job hget
  obtain ⟨job', hget', hcontinues⟩ := h id job hget
  obtain ⟨job'', hget'', hcontinues'⟩ := h' id job' hget'
  exact ⟨job'', hget'', hcontinues.trans hcontinues'⟩

lemma JobsKept.insert (h : ∀ job, data.jobs[jobId]? = some job → job.Continues job') :
    JobsKept data.jobs (data.jobs.insert jobId job') := by
  intro id job hget
  rw [getElem?_insert_eq]
  by_cases hid : id = jobId
  · subst hid
    exact ⟨job', by simp, h job hget⟩
  · exact ⟨job, by rw [if_neg hid, hget], .refl⟩

lemma Applies.jobsKept (h : Applies data e data') : JobsKept data.jobs data'.jobs := by
  cases h with
  | enqueued hnew =>
    refine .insert fun job hget => ?_
    rw [hnew] at hget
    simp at hget
  | claimed hfound hpending =>
    refine .insert fun job hget => ?_
    obtain rfl := some.inj (hfound.symm.trans hget)
    exact ⟨rfl, rfl, rfl, rfl, by simp [hpending]⟩
  | released hheld | acknowledged hheld | deadLettered hheld =>
    refine .insert fun job hget => ?_
    obtain rfl := some.inj (hheld.found.symm.trans hget)
    exact ⟨rfl, rfl, rfl, rfl, by simp [hheld.status]⟩

/-! ## What all jobs have in common -/

/-- A job as the calls leave it. -/
structure JobRecord.Valid (codec : Codec Value) (job : JobRecord Value) : Prop where
  key : validateNonemptyLimited "idempotency_key" job.idempotencyKey maxIdempotencyKeyBytes =
    .ok ()
  bytes : codec.payloadLength job.payload ≤ maxPayloadBytes
  positive : 1 ≤ job.maxAttempts
  attempts_le : job.attempts ≤ job.maxAttempts
  pending : job.status = .pending → job.attempts < job.maxAttempts
  claimed : job.status = .claimed ↔ job.activeClaim.isSome
  limit : job.maxAttempts ≤ maxAttemptsLimit

/-- The jobs are valid, and the index is theirs. -/
structure QueueData.Consistent (codec : Codec Value) (data : QueueData Value) : Prop where
  named : ∀ (id : String) (job : JobRecord Value), data.jobs[id]? = some job → job.id = id
  valid : ∀ (id : String) (job : JobRecord Value), data.jobs[id]? = some job → job.Valid codec
  indexed : ∀ key id : String, data.idempotencyIndex[key]? = some id →
    ∃ job, data.jobs[id]? = some job ∧ job.idempotencyKey = key
  keyed : ∀ (id : String) (job : JobRecord Value), data.jobs[id]? = some job →
    data.idempotencyIndex[job.idempotencyKey]? = some id

lemma consistent_start (tornTail : ℕ) :
    (QueueData.start tornTail : QueueData Value).Consistent codec :=
  ⟨by simp [QueueData.start], by simp [QueueData.start], by simp [QueueData.start],
    by simp [QueueData.start]⟩

/-- An event replaces a job by one that continues it. -/
theorem QueueData.Consistent.insert (h : data.Consistent codec)
    (hget : data.jobs[jobId]? = some job) (hjobs : data'.jobs = data.jobs.insert jobId job')
    (hindex : data'.idempotencyIndex = data.idempotencyIndex) (hcontinues : job.Continues job')
    (hvalid : job'.Valid codec) : data'.Consistent codec := by
  constructor
  case named =>
    intro id found hfound
    rw [hjobs, getElem?_insert_eq] at hfound
    split_ifs at hfound with hid
    · obtain rfl := some.inj hfound
      rw [hcontinues.id, hid, h.named jobId job hget]
    · exact h.named id found hfound
  case valid =>
    intro id found hfound
    rw [hjobs, getElem?_insert_eq] at hfound
    split_ifs at hfound with hid
    · obtain rfl := some.inj hfound
      exact hvalid
    · exact h.valid id found hfound
  case indexed =>
    intro key id hkey
    rw [hindex] at hkey
    obtain ⟨found, hfound, hfoundKey⟩ := h.indexed key id hkey
    rw [hjobs, getElem?_insert_eq]
    by_cases hid : id = jobId
    · subst hid
      obtain rfl := some.inj (hget.symm.trans hfound)
      exact ⟨job', by simp, hcontinues.idempotencyKey.trans hfoundKey⟩
    · exact ⟨found, by rw [if_neg hid, hfound], hfoundKey⟩
  case keyed =>
    intro id found hfound
    rw [hindex]
    rw [hjobs, getElem?_insert_eq] at hfound
    split_ifs at hfound with hid
    · obtain rfl := some.inj hfound
      rw [hcontinues.idempotencyKey, hid, h.keyed jobId job hget]
    · exact h.keyed id found hfound

lemma saturatingAdd_attempts (h : job.Valid codec) (hpending : job.status = .pending) :
    saturatingAdd u32Max job.attempts 1 = job.attempts + 1 := by
  have hlt := h.pending hpending
  have hlimit := h.limit
  apply saturatingAdd_of_le
  simp only [maxAttemptsLimit, u32Max] at hlimit ⊢
  omega

lemma Applies.consistent (happlies : Applies data e data') (h : data.Consistent codec)
    (hdue : Due codec data e) : data'.Consistent codec := by
  cases happlies with
  | @enqueued jobId idempotencyKey payload maxAttempts atMs hnew hkey =>
    obtain ⟨hvalid, ⟨hpos, hlimit⟩, hbytes⟩ := hdue
    constructor
    case named =>
      intro id job hget
      simp only [getElem?_insert_eq] at hget
      split_ifs at hget with hid
      · obtain rfl := some.inj hget
        exact hid.symm
      · exact h.named id job hget
    case valid =>
      intro id job hget
      simp only [getElem?_insert_eq] at hget
      split_ifs at hget with hid
      · obtain rfl := some.inj hget
        exact ⟨hvalid, hbytes, hpos, by simp, fun _ => hpos, by simp, hlimit⟩
      · exact h.valid id job hget
    case indexed =>
      intro key id hget
      simp only [getElem?_insert_eq] at hget ⊢
      by_cases hkey' : key = idempotencyKey
      · rw [if_pos hkey'] at hget
        obtain rfl := some.inj hget
        exact ⟨_, if_pos rfl, hkey'.symm⟩
      · rw [if_neg hkey'] at hget
        obtain ⟨job, hfound, hjobKey⟩ := h.indexed key id hget
        have hid : id ≠ jobId := by
          rintro rfl
          rw [hnew] at hfound
          simp at hfound
        exact ⟨job, by rw [if_neg hid, hfound], hjobKey⟩
    case keyed =>
      intro id job hget
      simp only [getElem?_insert_eq] at hget ⊢
      split_ifs at hget with hid
      · obtain rfl := some.inj hget
        rw [if_pos rfl, hid]
      · have hindex := h.keyed id job hget
        -- the key is new, so it is not that of a job
        rw [if_neg, hindex]
        rintro rfl
        rw [hkey] at hindex
        simp at hindex
  | @claimed jobId consumerId claimToken visibilityDeadlineMs attempt atMs job hget hpending
      hattempt =>
    have hvalid := h.valid jobId job hget
    rw [saturatingAdd_attempts hvalid hpending] at hattempt
    have hlt := hvalid.pending hpending
    refine h.insert hget rfl rfl ⟨rfl, rfl, rfl, rfl, by simp [hpending]⟩
      ⟨hvalid.key, hvalid.bytes, hvalid.positive, ?_, by simp, by simp, hvalid.limit⟩
    simp only [hattempt]
    omega
  | @released jobId claimToken reason expired atMs job lease hheld =>
    have hvalid := h.valid jobId job hheld.found
    obtain ⟨job', lease', hfound, -, hexhausted, -⟩ := hdue
    obtain rfl : job = job' := some.inj (hheld.found.symm.trans hfound)
    -- the attempts are not used up, so the job may be claimed again
    have hlt : job.attempts < job.maxAttempts := by simpa using hexhausted
    exact h.insert hheld.found rfl rfl ⟨rfl, rfl, rfl, rfl, by simp [hheld.status]⟩
      ⟨hvalid.key, hvalid.bytes, hvalid.positive, hvalid.attempts_le, fun _ => hlt, by simp,
        hvalid.limit⟩
  | @acknowledged jobId claimToken atMs job lease hheld =>
    have hvalid := h.valid jobId job hheld.found
    exact h.insert hheld.found rfl rfl ⟨rfl, rfl, rfl, rfl, by simp [hheld.status]⟩
      ⟨hvalid.key, hvalid.bytes, hvalid.positive, hvalid.attempts_le, by simp, by simp,
        hvalid.limit⟩
  | @deadLettered jobId claimToken reason expired atMs job lease hheld =>
    have hvalid := h.valid jobId job hheld.found
    exact h.insert hheld.found rfl rfl ⟨rfl, rfl, rfl, rfl, by simp [hheld.status]⟩
      ⟨hvalid.key, hvalid.bytes, hvalid.positive, hvalid.attempts_le, by simp, by simp,
        hvalid.limit⟩

end InferLab.BatchQueue
