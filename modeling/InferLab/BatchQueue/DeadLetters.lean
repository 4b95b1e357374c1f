import InferLab.BatchQueue.Effects

/-!
# How a job becomes a dead letter

`call_buried`: a call makes a dead letter only of a job that it finds claimed for the last time,
and whose lease has run out or whose holder fails it in this call.
-/

namespace InferLab.BatchQueue

open Option

open Std (TreeMap)

variable {Value : Type} {codec : Codec Value} {data : QueueData Value} {e : WalEvent Value}
  {inner : StoreInner Value} {id jobId : String} {nowMs : ℕ}

/-- Job `id` is a dead letter in `jobs'` only if it was one in `jobs`, or if its claim there was
the last one that it may have and ended by `cause`. -/
def Buried (cause : ClaimLease → Prop) (id : String)
    (jobs jobs' : TreeMap String (JobRecord Value)) : Prop :=
  ∀ job', jobs'[id]? = some job' → job'.status = .deadLetter →
    jobs[id]? = some job' ∨ ∃ job lease, jobs[id]? = some job ∧
      job.status = .claimed ∧ job.activeClaim = some lease ∧ job.maxAttempts ≤ job.attempts ∧
      cause lease

variable {cause cause' : ClaimLease → Prop} {jobs jobs' jobs'' : TreeMap String (JobRecord Value)}

lemma Buried.refl : Buried cause id jobs jobs := fun _ hget _ => Or.inl hget

lemma Buried.mono (h : Buried cause id jobs jobs')
    (hcause : ∀ lease, cause lease → cause' lease) : Buried cause' id jobs jobs' := by
  intro job' hget hdead
  refine (h job' hget hdead).imp_right ?_
  rintro ⟨job, lease, hfound, hstatus, hactive, hmax, hlease⟩
  exact ⟨job, lease, hfound, hstatus, hactive, hmax, hcause lease hlease⟩

/-- What buries no job may follow. -/
theorem Buried.trans (h : Buried cause id jobs jobs')
    (h' : Buried (fun _ => False) id jobs' jobs'') : Buried cause id jobs jobs'' := by
  intro job' hget hdead
  rcases h' job' hget hdead with hbefore | ⟨-, -, -, -, -, -, hfalse⟩
  · exact h job' hbefore hdead
  · exact hfalse.elim

/-- The other events bury no job. -/
theorem settle_not_buried (hother : ∀ jobId claimToken reason expired atMs,
    e ≠ .deadLettered jobId claimToken reason expired atMs) :
    Buried cause id data.jobs (settle data e).jobs := by
  intro job' hget hdead
  rcases settle_cases data e with happlies | hsame
  · generalize settle data e = data' at happlies hget
    cases happlies with
    | enqueued | claimed | released | acknowledged =>
      simp only [getElem?_insert_eq] at hget
      split_ifs at hget
      · obtain rfl := some.inj hget
        simp at hdead
      · exact .inl hget
    | deadLettered => exact (hother _ _ _ _ _ rfl).elim
  · rw [hsame] at hget
    exact .inl hget

/-- The event `e` calls job `id` a dead letter, and says whether the lease had run out. -/
def Buries (e : WalEvent Value) (id : String) (lease : ClaimLease) : Prop :=
  ∃ reason expired atMs, e = .deadLettered id lease.claimToken reason expired atMs ∧
    (expired = true ↔ lease.visibilityDeadlineMs ≤ atMs)

lemma settle_buried (hchecked : Checked codec data e) :
    Buried (Buries e id) id data.jobs (settle data e).jobs := by
  cases e with
  | enqueued | claimed | released | acknowledged => exact settle_not_buried (by simp)
  | deadLettered jobId claimToken reason expired atMs =>
    obtain ⟨⟨job, lease, hheld⟩, job₁, lease₁, hfound, hactive, hexhausted, hexpired⟩ := hchecked
    obtain rfl : job = job₁ := some.inj (hheld.found.symm.trans hfound)
    obtain rfl : lease = lease₁ := some.inj (hheld.active.symm.trans hactive)
    intro job' hget hdead
    simp only [settle, applyEvent, hheld.transitionClaimedJob_eq, getElem?_insert_eq] at hget
    split_ifs at hget with hid
    · subst hid
      exact .inr ⟨job, lease, hfound, hheld.status, hactive, by simpa using hexhausted,
        reason, expired, atMs, by rw [hheld.token], hexpired⟩
    · exact .inl hget

lemma record_data (codec : Codec Value) (inner : StoreInner Value) (e : WalEvent Value) :
    (inner.record codec e).inner.data = inner.data ∨
      (inner.record codec e).inner.data = settle inner.data e := by
  rcases inner.record_cases codec e with ⟨-, hsame⟩ | ⟨-, -, hdata, -⟩ | ⟨-, -, -, hdata⟩
  · exact .inl (by rw [hsame])
  · exact .inl hdata
  · exact .inr hdata

lemma record_buried (hchecked : Checked codec inner.data e) :
    Buried (Buries e id) id inner.data.jobs (inner.record codec e).inner.data.jobs := by
  rcases record_data codec inner e with hdata | hdata
  · rw [hdata]
    exact .refl
  · rw [hdata]
    exact settle_buried hchecked

lemma record_not_buried (hother : ∀ jobId claimToken reason expired atMs,
    e ≠ .deadLettered jobId claimToken reason expired atMs) :
    Buried cause id inner.data.jobs (inner.record codec e).inner.data.jobs := by
  rcases record_data codec inner e with hdata | hdata
  · rw [hdata]
    exact .refl
  · rw [hdata]
    exact settle_not_buried hother

lemma Buried.andThen {α β : Type} {reply : Reply Value α}
    {next : α → StoreInner Value → Reply Value β} (h : Buried cause id jobs reply.inner.data.jobs)
    (hnext : ∀ a, reply.result = .ok a →
      Buried (fun _ => False) id reply.inner.data.jobs (next a reply.inner).inner.data.jobs) :
    Buried cause id jobs (reply.andThen next).inner.data.jobs := by
  unfold Reply.andThen
  cases hresult : reply.result with
  | error error => exact h
  | ok a => exact h.trans (hnext a hresult)

lemma Buried.check {α β : Type} {result : Except QueueError α}
    {next : α → StoreInner Value → Reply Value β}
    (hnext : ∀ a, result = .ok a →
      Buried cause id inner.data.jobs (next a inner).inner.data.jobs) :
    Buried cause id inner.data.jobs ((inner.check result).andThen next).inner.data.jobs := by
  cases result with
  | error error => exact .refl
  | ok a => exact hnext a rfl

/-- The sweep buries jobs whose leases have run out. -/
theorem expireAll_buried {claims : List (String × String × Bool)}
    (h : Overdue inner.data nowMs claims) :
    Buried (fun lease => lease.visibilityDeadlineMs ≤ nowMs) id inner.data.jobs
      (expireAll codec nowMs claims inner).inner.data.jobs := by
  induction claims generalizing inner with
  | nil => exact .refl
  | cons c claims ih =>
    obtain ⟨jobId, claimToken, exhausted⟩ := c
    rw [expireAll]
    have hfirst : Buried (fun lease => lease.visibilityDeadlineMs ≤ nowMs) id inner.data.jobs
        (inner.record codec (failureEvent jobId claimToken "visibility_timeout" exhausted true
          nowMs)).inner.data.jobs := by
      refine (record_buried h.checked).mono ?_
      rintro lease ⟨reason, expired, atMs, heq, hexpired⟩
      cases exhausted with
      | false => simp [failureEvent] at heq
      | true =>
        simp only [failureEvent, if_true, WalEvent.deadLettered.injEq] at heq
        obtain ⟨-, -, -, rfl, rfl⟩ := heq
        exact hexpired.mp rfl
    unfold Reply.andThen
    cases hresult : (inner.record codec (failureEvent jobId claimToken "visibility_timeout"
        exhausted true nowMs)).result with
    | error error => exact hfirst
    | ok _ =>
      have happly := (StoreInner.record_eq_ok hresult).1
      intro job' hget hdead
      rcases ih (h.tail happly) job' hget hdead with hbefore | hlater
      · exact hfirst job' hbefore hdead
      · -- a job that is buried later is not the first one, and is as it was
        obtain ⟨job, lease, hfound, hstatus, hrest⟩ := hlater
        obtain ⟨-, hother, job₁, hget₁, hstatus₁⟩ := h.toSweepable.tail happly
        have hne : id ≠ jobId := by
          rintro rfl
          obtain rfl := some.inj (hget₁.symm.trans hfound)
          exact hstatus₁ hstatus
        exact .inr ⟨job, lease, (hother id hne) ▸ hfound, hstatus, hrest⟩

lemma refreshExpiredClaims_buried :
    Buried (fun lease => lease.visibilityDeadlineMs ≤ nowMs) id inner.data.jobs
      (refreshExpiredClaims codec inner nowMs).inner.data.jobs :=
  expireAll_buried overdue_expiredClaims

lemma Buried.read {α : Type} (result : StoreInner Value → Except QueueError α) :
    Buried (fun lease => lease.visibilityDeadlineMs ≤ nowMs) id inner.data.jobs
      ((refreshExpiredClaims codec inner nowMs).andThen
        fun () inner => inner.check (result inner)).inner.data.jobs :=
  .andThen refreshExpiredClaims_buried fun _ _ => .refl

lemma enqueue_buried [BEq Value] (request : EnqueueRequest Value) :
    Buried cause id inner.data.jobs (enqueue codec inner request nowMs).inner.data.jobs := by
  unfold enqueue
  refine .check fun _ _ => ?_
  split
  · exact .refl
  split
  · exact .refl
  split
  · split
    · exact .refl
    · split <;> exact .refl
  · refine .andThen (record_not_buried (by simp)) fun _ _ => ?_
    split <;> exact .refl

lemma claim_buried (request : ClaimRequest) :
    Buried (fun lease => lease.visibilityDeadlineMs ≤ nowMs) id inner.data.jobs
      (claim codec inner request nowMs).inner.data.jobs := by
  unfold claim
  refine .check fun _ _ => ?_
  split
  · exact .refl
  refine .andThen refreshExpiredClaims_buried fun _ _ => ?_
  unfold claimFirst
  split
  · exact .refl
  split
  · exact .refl
  · refine .andThen (record_not_buried (by simp)) fun _ _ => ?_
    split <;> exact .refl

lemma acknowledge_buried (request : AckRequest) :
    Buried (fun lease => lease.visibilityDeadlineMs ≤ nowMs) id inner.data.jobs
      (acknowledge codec inner jobId request nowMs).inner.data.jobs := by
  unfold acknowledge
  refine .check fun _ _ => .check fun _ _ => .andThen (.read _) fun _ _ => ?_
  exact .andThen (record_not_buried (by simp)) fun _ _ => .refl

/-- The claim ends without success: its lease has run out, or its holder fails it. -/
def Call.GivesUp (request : Call Value) (nowMs : ℕ) (jobId : String) (lease : ClaimLease) :
    Prop :=
  lease.visibilityDeadlineMs ≤ nowMs ∨
    nowMs < lease.visibilityDeadlineMs ∧ ∃ error, request = .fail jobId {
      consumerId := lease.consumerId, claimToken := lease.claimToken, error }

lemma fail_buried (request : FailRequest) :
    Buried ((Call.fail jobId request : Call Value).GivesUp nowMs id) id inner.data.jobs
      (fail codec inner jobId request nowMs).inner.data.jobs := by
  unfold fail
  refine .check fun _ _ => .check fun _ _ => .check fun _ _ => ?_
  have hswept : Buried ((Call.fail jobId request : Call Value).GivesUp nowMs id) id
      inner.data.jobs (requireLease codec inner jobId request.consumerId request.claimToken
        nowMs).inner.data.jobs :=
    (Buried.read _).mono fun _ hexpired => .inl hexpired
  unfold Reply.andThen
  cases hresult : (requireLease codec inner jobId request.consumerId request.claimToken
      nowMs).result with
  | error error => exact hswept
  | ok _ =>
    obtain ⟨job, lease, hheld, hbefore, hconsumer, hlt⟩ := requireLease_eq_ok hresult
    have hchecked : Checked codec _ (failureEvent jobId request.claimToken request.error
        (decide (job.attempts ≥ job.maxAttempts)) false nowMs) :=
      checked_failureEvent hheld decide_eq_true_iff (by simp [hlt])
    simp only [hheld.found]
    refine .andThen (fun job' hget hdead => ?_) fun _ _ => .refl
    rcases record_buried hchecked job' hget hdead with hmid | hends
    · exact hswept job' hmid hdead
    · -- the job is the one whose lease was checked, and has been since before the sweep
      obtain ⟨job₁, lease₁, hfound, -, hactive, hmax, reason, expired, atMs, heq, -⟩ := hends
      obtain rfl : jobId = id := by
        unfold failureEvent at heq
        split_ifs at heq
        exact (WalEvent.deadLettered.inj heq).1
      obtain rfl : job = job₁ := some.inj (hheld.found.symm.trans hfound)
      obtain rfl : lease = lease₁ := some.inj (hheld.active.symm.trans hactive)
      exact .inr ⟨job, lease, hbefore.found, hbefore.status, hactive, hmax,
        .inr ⟨hlt, request.error, by rw [hconsumer, hheld.token]⟩⟩

/-- A call buries only jobs whose last claim it finds expired, or fails. -/
theorem call_buried [BEq Value] (request : Call Value) :
    Buried (request.GivesUp nowMs id) id inner.data.jobs
      (inner.call codec nowMs request).inner.data.jobs := by
  have hexpired : ∀ lease : ClaimLease, lease.visibilityDeadlineMs ≤ nowMs →
      request.GivesUp nowMs id lease := fun _ h => .inl h
  cases request with
  | enqueue request => exact enqueue_buried request
  | claim request => exact (claim_buried request).mono hexpired
  | acknowledge jobId request => exact (acknowledge_buried request).mono hexpired
  | fail jobId request => exact fail_buried request
  | getJob jobId => exact (Buried.read (cloneJob ·.data jobId)).mono hexpired
  | deadLetters => exact (Buried.read _).mono hexpired
  | snapshot => exact (Buried.read _).mono hexpired
  | metricsSnapshot => exact .refl

end InferLab.BatchQueue
