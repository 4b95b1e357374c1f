import InferLab.BatchQueue.DeadLetters
import InferLab.BatchQueue.History
import InferLab.BatchQueue.Leases

/-!
# The life of a job

`job_lifecycle` follows a job through all calls, failed writes and restarts, without a bound on
the number of jobs and claims.
-/

namespace InferLab.BatchQueue

open Option

variable {Value : Type} {codec : Codec Value} {data : QueueData Value} {e : WalEvent Value}
  {es : List (WalEvent Value)} {inner : StoreInner Value} {disk : Disk Value}
  {id jobId : String} {nowMs : ℕ} {w : World Value} {path : String} {action : Action Value}

/-! ## Acknowledgements -/

def WalEvent.acknowledges (jobId : String) : WalEvent Value → Bool
  | .acknowledged id .. => id == jobId
  | _ => false

/-- How often the events acknowledge a job. -/
def acknowledgements (jobId : String) (es : List (WalEvent Value)) : ℕ :=
  es.countP (·.acknowledges jobId)

lemma acknowledgements_concat :
    acknowledgements id (es ++ [e]) =
      acknowledgements id es + if e.acknowledges id then 1 else 0 := by
  simp [acknowledgements, List.countP_append, List.countP_singleton]

/-- A job is acknowledged once at most, and is then completed. -/
def AcknowledgedOnce (es : List (WalEvent Value)) (data : QueueData Value) : Prop :=
  ∀ id : String, acknowledgements id es = 0 ∨ acknowledgements id es = 1 ∧
    ∃ job, data.jobs[id]? = some job ∧ job.status = .completed

/-- The event that acknowledges a job is about a job that is claimed. -/
theorem Permitted.acknowledges (h : Permitted data e) (hack : e.acknowledges id = true) :
    ∃ job lease atMs claimToken, e = .acknowledged id claimToken atMs ∧
      Held data id claimToken job lease := by
  cases e with
  | acknowledged jobId claimToken atMs =>
    obtain ⟨job, lease, hheld⟩ := h
    obtain rfl : jobId = id := by simpa [WalEvent.acknowledges] using hack
    exact ⟨job, lease, atMs, claimToken, rfl, hheld⟩
  | _ => simp [WalEvent.acknowledges] at hack

lemma AcknowledgedOnce.eq_zero (h : AcknowledgedOnce es data) (hp : Permitted data e)
    (hack : e.acknowledges id = true) : acknowledgements id es = 0 := by
  obtain ⟨job, lease, _, _, -, hheld⟩ := hp.acknowledges hack
  rcases h id with hzero | ⟨-, job', hget, hcompleted⟩
  · exact hzero
  · obtain rfl := some.inj (hheld.found.symm.trans hget)
    rw [hheld.status] at hcompleted
    simp at hcompleted

lemma AcknowledgedOnce.append (h : AcknowledgedOnce es data) (hp : Permitted data e) :
    AcknowledgedOnce (es ++ [e]) (BatchQueue.settle data e) := by
  intro id
  rw [acknowledgements_concat]
  by_cases hack : e.acknowledges id = true
  · refine .inr ⟨by rw [h.eq_zero hp hack, if_pos hack], ?_⟩
    obtain ⟨job, lease, atMs, claimToken, rfl, hheld⟩ := hp.acknowledges hack
    simp only [settle, applyEvent, hheld.transitionClaimedJob_eq, getElem?_insert_eq, if_true]
    exact ⟨_, rfl, rfl⟩
  · rw [if_neg hack]
    refine (h id).imp_right ?_
    rintro ⟨hone, job, hget, hcompleted⟩
    refine ⟨hone, ?_⟩
    obtain ⟨job', hget', hcontinues⟩ := settle_jobsKept id job hget
    exact ⟨job', hget', by rw [hcontinues.final (.inl hcompleted), hcompleted]⟩

lemma History.acknowledged (h : History codec es data) : AcknowledgedOnce es data := by
  induction h with
  | start => exact fun _ => .inl rfl
  | append _ hchecked ih => exact ih.append hchecked.1

/-! ## What the callers are answered -/

/-- The answer names the job of the request, and that job is in the store. -/
theorem enqueue_eq_ok [BEq Value] {request : EnqueueRequest Value}
    {response : EnqueueResponse Value} (hconsistent : inner.data.Consistent codec)
    (h : (enqueue codec inner request nowMs).result = .ok response) :
    response.job.idempotencyKey = request.idempotencyKey ∧
      response.job.maxAttempts = request.maxAttempts ∧
      (if response.created then response.job.payload = request.payload
        else (response.job.payload == request.payload) = true) ∧
      (enqueue codec inner request nowMs).inner.data.jobs[response.job.id]? =
        some response.job := by
  unfold enqueue at h ⊢
  obtain ⟨_, -, heq⟩ := andThen_eq_ok h
  rw [heq] at h ⊢
  clear heq
  simp only [StoreInner.check] at h ⊢
  by_cases hlimit : ¬ (1 ≤ request.maxAttempts ∧ request.maxAttempts ≤ maxAttemptsLimit)
  · rw [if_pos hlimit] at h
    simp at h
  by_cases hbytes : codec.payloadLength request.payload > maxPayloadBytes
  · rw [if_neg hlimit, if_pos hbytes] at h
    simp at h
  rw [if_neg hlimit, if_neg hbytes] at h ⊢
  cases hkey : inner.data.idempotencyIndex[request.idempotencyKey]? with
  | some existingId =>
    obtain ⟨existing, hexisting, hexistingKey⟩ := hconsistent.indexed _ _ hkey
    simp only [hkey, hexisting] at h ⊢
    by_cases hconflict : existing.payload != request.payload ∨
        existing.maxAttempts ≠ request.maxAttempts
    · rw [if_pos hconflict] at h
      simp at h
    · rw [if_neg hconflict] at h ⊢
      obtain rfl := Except.ok.inj h
      simp only [not_or, not_not] at hconflict
      refine ⟨hexistingKey, hconflict.2, ?_, by rw [hconsistent.named _ _ hexisting, hexisting]⟩
      simpa [bne] using hconflict.1
  | none =>
    simp only [hkey] at h ⊢
    obtain ⟨_, hrecord, heq⟩ := andThen_eq_ok h
    rw [heq] at h ⊢
    have happly := applyEvent_cases (StoreInner.record_eq_ok hrecord).1
    simp only [enqueuedJob] at h ⊢
    obtain rfl := Except.ok.inj h
    generalize (inner.record codec _).inner.data = data' at happly ⊢
    cases happly with
    | enqueued => exact ⟨rfl, rfl, rfl, by simp⟩

/-- A job that is acknowledged was claimed, and is completed then. -/
theorem acknowledge_completes {request : AckRequest} {answer : JobRecord Value}
    (h : (acknowledge codec inner jobId request nowMs).result = .ok answer) :
    (∃ job lease, Held inner.data jobId request.claimToken job lease) ∧
      ∃ job, (acknowledge codec inner jobId request nowMs).inner.data.jobs[jobId]? = some job ∧
        job.status = .completed := by
  obtain ⟨job, lease, -, hbefore, -⟩ := requireLease_eq_ok (acknowledge_eq_ok h)
  refine ⟨⟨job, lease, hbefore⟩, ?_⟩
  unfold acknowledge at h ⊢
  obtain ⟨_, -, heq⟩ := andThen_eq_ok h
  rw [heq] at h ⊢
  obtain ⟨_, -, heq⟩ := andThen_eq_ok h
  rw [heq] at h ⊢
  obtain ⟨_, -, heq⟩ := andThen_eq_ok h
  rw [heq] at h ⊢
  obtain ⟨_, hrecord, heq⟩ := andThen_eq_ok h
  rw [heq]
  have happly := applyEvent_cases (StoreInner.record_eq_ok hrecord).1
  simp only [StoreInner.check] at happly ⊢
  generalize (StoreInner.record codec _ _).inner.data = data' at happly ⊢
  cases happly with
  | acknowledged => exact ⟨_, by rw [getElem?_insert_eq, if_pos rfl], rfl⟩

/-! ## Whole lives of a queue -/

/-- How a claim ends without success: a call finds its lease expired or fails it, or a log is
opened that ends in such an event, whose append was not finished. -/
def Action.GivesUp (w : World Value) (jobId : String) (lease : ClaimLease) :
    Action Value → Prop
  | .call request nowMs _ => request.GivesUp nowMs jobId lease
  | .stop => False
  | .reopen => ∃ e, w.disk.unfinished = some e ∧ Buries e jobId lease

lemma World.Alive.buried [BEq Value] (h : w.Alive codec) (id : String) :
    Buried (action.GivesUp w id) id w.jobs (w.step codec path action).jobs := by
  cases w with
  | running inner =>
    cases action with
    | call request nowMs outcomes =>
      have hburied : Buried (request.GivesUp nowMs id) id (inner.withOutcomes outcomes).data.jobs
          ((inner.withOutcomes outcomes).call codec nowMs request).inner.data.jobs :=
        call_buried request
      exact hburied
    | stop =>
      rw [World.step, h.2.jobs_stopped]
      exact .refl
    | reopen => exact .refl
  | stopped disk =>
    cases action with
    | call request nowMs outcomes => exact .refl
    | stop => exact .refl
    | reopen =>
      obtain ⟨data, halive⟩ := h
      rw [halive.jobs_stopped]
      rcases (halive.reopen path).2 with hsame | ⟨e, he, hsettled⟩
      · rw [hsame]
        exact .refl
      · rw [hsettled]
        exact (settle_buried (halive.checked he)).mono fun lease hburies => ⟨e, he, hburies⟩

/-- The action acknowledges the job, and is answered with success. -/
def Acknowledges [BEq Value] (codec : Codec Value) (w : World Value) (action : Action Value)
    (jobId : String) : Prop :=
  ∃ request nowMs outcomes answer, action = .call (.acknowledge jobId request) nowMs outcomes ∧
    w.answer codec action = some (.ok (.job answer))

lemma Acknowledges.completes [BEq Value] (h : Acknowledges codec w action jobId)
    (path : String) :
    (∃ job, w.jobs[jobId]? = some job ∧ job.status = .claimed) ∧
      ∃ job, (w.step codec path action).jobs[jobId]? = some job ∧ job.status = .completed := by
  obtain ⟨request, nowMs, outcomes, answer, rfl, hanswer⟩ := h
  cases w with
  | stopped disk => simp [World.answer] at hanswer
  | running inner =>
    obtain ⟨answer', hresult, -⟩ := Reply.map_eq_ok (some.inj hanswer)
    obtain ⟨⟨job, lease, hheld⟩, hcompleted⟩ := acknowledge_completes hresult
    exact ⟨⟨job, hheld.found, hheld.status⟩, hcompleted⟩

/-- An enqueue that is answered names a job of its request, which is then in the queue. -/
theorem enqueue_answered [BEq Value] (path : String) (h : w.Alive codec)
    {request : EnqueueRequest Value} {outcomes : List WriteOutcome}
    {response : EnqueueResponse Value}
    (hanswer : w.answer codec (.call (.enqueue request) nowMs outcomes) =
      some (.ok (.enqueued response))) :
    response.job.idempotencyKey = request.idempotencyKey ∧
      response.job.maxAttempts = request.maxAttempts ∧
      (if response.created then response.job.payload = request.payload
        else (response.job.payload == request.payload) = true) ∧
      (w.step codec path (.call (.enqueue request) nowMs outcomes)).jobs[response.job.id]? =
        some response.job := by
  cases w with
  | stopped disk => simp [World.answer] at hanswer
  | running inner =>
    obtain ⟨answer, hresult, heq⟩ := Reply.map_eq_ok (some.inj hanswer)
    obtain rfl : answer = response := by simpa using heq
    exact enqueue_eq_ok h.2.history.consistent hresult

/-- The log acknowledges a job at most once, the event whose append failed included. -/
theorem Alive.acknowledgements_le (h : Alive codec disk data) (id : String) :
    acknowledgements id disk.written ≤ 1 := by
  unfold Disk.written
  cases hunfinished : disk.unfinished with
  | none =>
    rw [toList_none, List.append_nil]
    rcases h.history.acknowledged id with hzero | ⟨hone, -⟩
    · omega
    · omega
  | some e =>
    obtain ⟨torn, -, hremains⟩ := h.file
    rw [hunfinished] at hremains
    rw [toList_some, acknowledgements_concat]
    by_cases hack : e.acknowledges id = true
    · rw [h.history.acknowledged.eq_zero hremains.2 hack, if_pos hack]
    · rw [if_neg hack]
      rcases h.history.acknowledged id with hzero | ⟨hone, -⟩
      · omega
      · omega

/-- Through all calls, clock readings, failed writes, crashes and restarts: a job whose enqueue
was answered stays, with its request; its attempts keep within its limit, and strictly while it
is pending; it has an active claim exactly while it is claimed; completed jobs and dead letters
do not change; a job becomes a dead letter only by the end of the last claim that it may have,
without success; and it is acknowledged at most once. -/
theorem job_lifecycle [BEq Value] (codec : Codec Value) (path : String) :
    (∀ before request nowMs outcomes response later,
      (World.after codec path before).answer codec (.call (.enqueue request) nowMs outcomes) =
        some (.ok (.enqueued response)) →
      ∃ job, (World.after codec path
          (before ++ .call (.enqueue request) nowMs outcomes :: later)).jobs[response.job.id]? =
          some job ∧
        job.payload = response.job.payload ∧
        (response.created = true → job.payload = request.payload) ∧
        job.idempotencyKey = request.idempotencyKey ∧ job.maxAttempts = request.maxAttempts) ∧
    (∀ actions (id : String) (job : JobRecord Value),
      (World.after codec path actions).jobs[id]? = some job →
      job.attempts ≤ job.maxAttempts ∧
      (job.status = .pending → job.attempts < job.maxAttempts) ∧
      (job.status = .claimed ↔ job.activeClaim.isSome)) ∧
    (∀ before later (id : String) (job : JobRecord Value),
      (World.after codec path before).jobs[id]? = some job →
      job.status = .completed ∨ job.status = .deadLetter →
      (World.after codec path (before ++ later)).jobs[id]? = some job) ∧
    (∀ before action (id : String) (job' : JobRecord Value),
      (World.after codec path (before ++ [action])).jobs[id]? = some job' →
      job'.status = .deadLetter →
      (World.after codec path before).jobs[id]? = some job' ∨
        ∃ job lease, (World.after codec path before).jobs[id]? = some job ∧
          job.status = .claimed ∧ job.activeClaim = some lease ∧
          job.attempts = job.maxAttempts ∧
          action.GivesUp (World.after codec path before) id lease) ∧
    (∀ actions id, acknowledgements id (World.after codec path actions).disk.written ≤ 1) ∧
    ∀ before action between action' id,
      Acknowledges codec (World.after codec path before) action id →
      ¬ Acknowledges codec (World.after codec path (before ++ action :: between)) action' id := by
  have hafter : ∀ before action (later : List (Action Value)),
      before ++ action :: later = (before ++ [action]) ++ later := by simp
  refine ⟨?_, ?_, ?_, ?_, ?_, ?_⟩
  · intro before request nowMs outcomes response later hanswer
    obtain ⟨hkey, hmax, hpayload, hget⟩ :=
      enqueue_answered path (World.alive_after codec path before) hanswer
    rw [← World.after_concat] at hget
    rw [hafter]
    obtain ⟨job, hjob, hcontinues⟩ := jobsKept_after codec path _ later _ _ hget
    refine ⟨job, hjob, hcontinues.payload, fun hcreated => ?_,
      hcontinues.idempotencyKey.trans hkey, hcontinues.maxAttempts.trans hmax⟩
    rw [if_pos hcreated] at hpayload
    exact hcontinues.payload.trans hpayload
  · intro actions id job hget
    obtain ⟨data, halive, hjobs⟩ := (World.alive_after codec path actions).exists_data
    rw [hjobs] at hget
    have hvalid := halive.history.consistent.valid id job hget
    exact ⟨hvalid.attempts_le, hvalid.pending, hvalid.claimed⟩
  · intro before later id job hget hfinal
    obtain ⟨job', hget', hcontinues⟩ := jobsKept_after codec path before later id job hget
    rw [hget', hcontinues.final hfinal]
  · intro before action id job' hget hdead
    have halive := World.alive_after codec path before
    rw [World.after_concat] at hget
    refine (halive.buried id job' hget hdead).imp_right ?_
    rintro ⟨job, lease, hfound, hstatus, hactive, hmax, hcause⟩
    obtain ⟨data, hdata, hjobs⟩ := halive.exists_data
    have hle := (hdata.history.consistent.valid id job (hjobs ▸ hfound)).attempts_le
    exact ⟨job, lease, hfound, hstatus, hactive, le_antisymm hle hmax, hcause⟩
  · intro actions id
    obtain ⟨data, halive, -⟩ := (World.alive_after codec path actions).exists_data
    exact halive.acknowledgements_le id
  · intro before action between action' id hack hack'
    -- the first one completes the job, and then no claim is left for the second
    obtain ⟨-, job, hget, hcompleted⟩ := hack.completes path
    rw [← World.after_concat] at hget
    obtain ⟨job', hget', hcontinues⟩ := jobsKept_after codec path _ between _ _ hget
    rw [← hafter] at hget'
    obtain ⟨⟨job₁, hget₁, hclaimed⟩, -⟩ := hack'.completes path
    obtain rfl := some.inj (hget'.symm.trans hget₁)
    rw [hcontinues.final (.inl hcompleted), hcompleted] at hclaimed
    simp at hclaimed

/-- The only attempt of a job fails. -/
def onlyAttempt : List (Action Unit) :=
  [.reopen,
    .call (.enqueue { idempotencyKey := "only-attempt", payload := (), maxAttempts := 1 }) 100 [],
    .call (.claim { consumerId := "consumer-a" }) 110 [],
    .call (.fail "batch-00000001" {
      consumerId := "consumer-a", claimToken := "claim-000000000001",
      error := "out of memory" }) 120 []]

theorem job_lifecycle_onlyAttempt :
    ∃ job, (World.after exampleCodec "events.wal" onlyAttempt).jobs["batch-00000001"]? =
        some job ∧
      job.status = .deadLetter ∧ ∀ later,
        (World.after exampleCodec "events.wal" (onlyAttempt ++ later)).jobs["batch-00000001"]? =
          some job := by
  obtain ⟨job, hget, hdead⟩ := map_eq_some_iff.mp
    (show (World.after exampleCodec "events.wal" onlyAttempt).jobs["batch-00000001"]?.map
        (·.status) = some .deadLetter by decide +kernel)
  obtain ⟨-, -, hfinal, -⟩ := job_lifecycle exampleCodec "events.wal"
  refine ⟨job, hget, hdead, fun later => ?_⟩
  exact hfinal onlyAttempt later "batch-00000001" job hget (.inr hdead)

end InferLab.BatchQueue
