import InferLab.BatchQueue.Leases
import InferLab.BatchQueue.History
import InferLab.MapSum

/-!
# The counters of the batch queue

`apply_event` keeps the counters of `QueueData` up to date one event at a time. `Counted` says
what they count; `Applies.counted` is the step, for counters that do not saturate, and
`queue_counters_exact` what follows for every state of a queue.
-/

namespace InferLab.BatchQueue

open List

open Std (TreeMap)
open MapSum

variable {Value : Type} {codec : Codec Value} {data data' : QueueData Value} {e : WalEvent Value}
  {es : List (WalEvent Value)} {jobId : String} {job job' : JobRecord Value} {n : ℕ}

/-- How many jobs have the status. -/
def countStatus (status : JobStatus) (jobs : TreeMap String (JobRecord Value)) : ℕ :=
  sumOf (fun job => if job.status = status then 1 else 0) jobs

/-- What the counters count. -/
structure Counted (data : QueueData Value) : Prop where
  pending : data.pending = countStatus .pending data.jobs
  claimed : data.claimed = countStatus .claimed data.jobs
  completed : data.completed = countStatus .completed data.jobs
  deadLetter : data.deadLetter = countStatus .deadLetter data.jobs
  claimsTotal : data.claimsTotal = sumOf (fun job => job.attempts) data.jobs
  redeliveriesTotal : data.redeliveriesTotal = sumOf (fun job => job.attempts - 1) data.jobs
  acknowledgmentsTotal : data.acknowledgmentsTotal = data.completed
  deadLetteredTotal : data.deadLetteredTotal = data.deadLetter

lemma counted_start (tornTail : ℕ) : Counted (QueueData.start tornTail : QueueData Value) :=
  ⟨rfl, rfl, rfl, rfl, rfl, rfl, rfl, rfl⟩

/-! ## One job more, or another job in its place -/

lemma sumOf_new (f : JobRecord Value → ℕ) (hnew : data.jobs[jobId]? = none) :
    sumOf f (data.jobs.insert jobId job') = sumOf f data.jobs + f job' := by
  simpa [hnew] using sumOf_insert f data.jobs jobId job'

lemma sumOf_replace (f : JobRecord Value → ℕ) (job' : JobRecord Value)
    (hget : data.jobs[jobId]? = some job) :
    sumOf f (data.jobs.insert jobId job') + f job = sumOf f data.jobs + f job' := by
  simpa [hget] using sumOf_insert f data.jobs jobId job'

lemma countStatus_replace (status : JobStatus) (hget : data.jobs[jobId]? = some job) :
    countStatus status (data.jobs.insert jobId job') + (if job.status = status then 1 else 0) =
      countStatus status data.jobs + (if job'.status = status then 1 else 0) :=
  sumOf_replace _ job' hget

lemma countStatus_pos {status : JobStatus} (hget : data.jobs[jobId]? = some job)
    (hstatus : job.status = status) : 0 < countStatus status data.jobs := by
  have hsum := sumOf_eq_of_getElem? (fun job => if job.status = status then 1 else 0) hget
  rw [if_pos hstatus] at hsum
  rw [countStatus, hsum]
  omega

/-- Every job has one of the four statuses. -/
theorem countStatus_sum (jobs : TreeMap String (JobRecord Value)) :
    countStatus .pending jobs + countStatus .claimed jobs + countStatus .completed jobs +
      countStatus .deadLetter jobs = jobs.size := by
  unfold countStatus
  rw [← sumOf_add, ← sumOf_add, ← sumOf_add, ← sumOf_one]
  congr 1
  funext job
  cases job.status <;> rfl

/-! ## Counters that do not saturate -/

lemma increment_le (counter : ℕ) : increment counter ≤ counter + 1 := by
  unfold increment saturatingAdd
  omega

lemma increment_eq {counter : ℕ} (h : counter < u64Max) : increment counter = counter + 1 := by
  unfold increment
  rw [saturatingAdd_of_le (by omega)]

/-- No counter is larger than `n`. -/
structure QueueData.Within (data : QueueData Value) (n : ℕ) : Prop where
  pending : data.pending ≤ n
  claimed : data.claimed ≤ n
  completed : data.completed ≤ n
  deadLetter : data.deadLetter ≤ n
  claimsTotal : data.claimsTotal ≤ n
  redeliveriesTotal : data.redeliveriesTotal ≤ n
  acknowledgmentsTotal : data.acknowledgmentsTotal ≤ n
  deadLetteredTotal : data.deadLetteredTotal ≤ n

lemma QueueData.Within.mono {m : ℕ} (h : data.Within n) (hle : n ≤ m) : data.Within m :=
  ⟨h.pending.trans hle, h.claimed.trans hle, h.completed.trans hle, h.deadLetter.trans hle,
    h.claimsTotal.trans hle, h.redeliveriesTotal.trans hle, h.acknowledgmentsTotal.trans hle,
    h.deadLetteredTotal.trans hle⟩

/-- An event adds at most one to a counter. -/
theorem Applies.within (happlies : Applies data e data') (h : data.Within n) :
    data'.Within (n + 1) := by
  have hkept := h.mono (Nat.le_succ n)
  have hincrement : ∀ {counter : ℕ}, counter ≤ n → increment counter ≤ n + 1 :=
    fun hle => (increment_le _).trans (Nat.succ_le_succ hle)
  have hdecrement : ∀ {counter : ℕ}, counter ≤ n → counter - 1 ≤ n + 1 :=
    fun hle => (Nat.sub_le _ _).trans (hle.trans (Nat.le_succ n))
  cases happlies with
  | enqueued => exact { hkept with pending := hincrement h.pending }
  | claimed =>
    refine { hkept with
      pending := hdecrement h.pending
      claimed := hincrement h.claimed
      claimsTotal := hincrement h.claimsTotal
      redeliveriesTotal := ?_ }
    split
    · exact hincrement h.redeliveriesTotal
    · exact hkept.redeliveriesTotal
  | released =>
    exact { hkept with pending := hincrement h.pending, claimed := hdecrement h.claimed }
  | acknowledged =>
    exact { hkept with
      claimed := hdecrement h.claimed
      completed := hincrement h.completed
      acknowledgmentsTotal := hincrement h.acknowledgmentsTotal }
  | deadLettered =>
    exact { hkept with
      claimed := hdecrement h.claimed
      deadLetter := hincrement h.deadLetter
      deadLetteredTotal := hincrement h.deadLetteredTotal }

lemma History.within (h : History codec es data) : data.Within es.length := by
  induction h with
  | start => exact ⟨le_rfl, le_rfl, le_rfl, le_rfl, le_rfl, le_rfl, le_rfl, le_rfl⟩
  | @append es data e _ _ ih =>
    rw [length_append, length_singleton]
    rcases settle_cases data e with happlies | hsame
    · exact happlies.within ih
    · rw [hsame]
      exact ih.mono (Nat.le_succ _)

/-- Another job takes the place of one, and the counters follow. -/
theorem Counted.replace (h : Counted data) (hget : data.jobs[jobId]? = some job)
    (hjobs : data'.jobs = data.jobs.insert jobId job')
    (hpending : data'.pending + (if job.status = .pending then 1 else 0) =
      data.pending + (if job'.status = .pending then 1 else 0))
    (hclaimed : data'.claimed + (if job.status = .claimed then 1 else 0) =
      data.claimed + (if job'.status = .claimed then 1 else 0))
    (hcompleted : data'.completed + (if job.status = .completed then 1 else 0) =
      data.completed + (if job'.status = .completed then 1 else 0))
    (hdeadLetter : data'.deadLetter + (if job.status = .deadLetter then 1 else 0) =
      data.deadLetter + (if job'.status = .deadLetter then 1 else 0))
    (hclaims : data'.claimsTotal + job.attempts = data.claimsTotal + job'.attempts)
    (hredeliveries : data'.redeliveriesTotal + (job.attempts - 1) =
      data.redeliveriesTotal + (job'.attempts - 1))
    (hacknowledgments : data'.acknowledgmentsTotal = data'.completed)
    (hdeadLettered : data'.deadLetteredTotal = data'.deadLetter) : Counted data' := by
  have hcount : ∀ status, countStatus status data'.jobs +
      (if job.status = status then 1 else 0) =
        countStatus status data.jobs + (if job'.status = status then 1 else 0) := by
    intro status
    rw [hjobs]
    exact countStatus_replace status hget
  constructor
  case pending =>
    have := hcount .pending
    have := h.pending
    omega
  case claimed =>
    have := hcount .claimed
    have := h.claimed
    omega
  case completed =>
    have := hcount .completed
    have := h.completed
    omega
  case deadLetter =>
    have := hcount .deadLetter
    have := h.deadLetter
    omega
  case claimsTotal =>
    have := sumOf_replace (fun job => job.attempts) job' hget
    have := h.claimsTotal
    rw [hjobs]
    omega
  case redeliveriesTotal =>
    have := sumOf_replace (fun job => job.attempts - 1) job' hget
    have := h.redeliveriesTotal
    rw [hjobs]
    omega
  case acknowledgmentsTotal => exact hacknowledgments
  case deadLetteredTotal => exact hdeadLettered

/-- The counters follow an event, if none of them is at its end. -/
theorem Applies.counted (happlies : Applies data e data') (h : Counted data)
    (hconsistent : data.Consistent codec) (hwithin : data.Within n) (hn : n < u64Max) :
    Counted data' := by
  have hincrement : ∀ {counter : ℕ}, counter ≤ n → increment counter = counter + 1 :=
    fun hle => increment_eq (hle.trans_lt hn)
  cases happlies with
  | enqueued hnew =>
    constructor
    case pending =>
      rw [hincrement hwithin.pending, h.pending, countStatus, countStatus, sumOf_new _ hnew,
        if_pos rfl]
    case acknowledgmentsTotal => exact h.acknowledgmentsTotal
    case deadLetteredTotal => exact h.deadLetteredTotal
    case claimed => simpa [countStatus, sumOf_new _ hnew] using h.claimed
    case completed => simpa [countStatus, sumOf_new _ hnew] using h.completed
    case deadLetter => simpa [countStatus, sumOf_new _ hnew] using h.deadLetter
    case claimsTotal => simpa [sumOf_new _ hnew] using h.claimsTotal
    case redeliveriesTotal => simpa [sumOf_new _ hnew] using h.redeliveriesTotal
  | @claimed jobId consumerId claimToken deadline attempt atMs job hget hpending hattempt =>
    rw [saturatingAdd_attempts (hconsistent.valid _ _ hget) hpending] at hattempt
    subst hattempt
    have hpos : 0 < data.pending := h.pending ▸ countStatus_pos hget hpending
    refine h.replace hget rfl ?_ ?_ ?_ ?_ ?_ ?_ h.acknowledgmentsTotal h.deadLetteredTotal
    · simp only [hpending, if_true, reduceCtorEq, if_false]
      omega
    · simp [hpending, hincrement hwithin.claimed]
    · simp [hpending]
    · simp [hpending]
    · simp only [hincrement hwithin.claimsTotal]
      omega
    · -- the first claim is not a redelivery
      by_cases hfirst : job.attempts + 1 > 1
      · simp only [if_pos hfirst, hincrement hwithin.redeliveriesTotal]
        omega
      · simp only [if_neg hfirst]
        omega
  | @released jobId claimToken reason expired atMs job lease hheld =>
    have hpos : 0 < data.claimed := h.claimed ▸ countStatus_pos hheld.found hheld.status
    refine h.replace hheld.found rfl ?_ ?_ ?_ ?_ rfl rfl h.acknowledgmentsTotal
      h.deadLetteredTotal
    · simp [hheld.status, hincrement hwithin.pending]
    · simp only [hheld.status, if_true, reduceCtorEq, if_false]
      omega
    · simp [hheld.status]
    · simp [hheld.status]
  | @acknowledged jobId claimToken atMs job lease hheld =>
    have hpos : 0 < data.claimed := h.claimed ▸ countStatus_pos hheld.found hheld.status
    refine h.replace hheld.found rfl ?_ ?_ ?_ ?_ rfl rfl ?_ h.deadLetteredTotal
    · simp [hheld.status]
    · simp only [hheld.status, if_true, reduceCtorEq, if_false]
      omega
    · simp [hheld.status, hincrement hwithin.completed]
    · simp [hheld.status]
    · rw [h.acknowledgmentsTotal]
  | @deadLettered jobId claimToken reason expired atMs job lease hheld =>
    have hpos : 0 < data.claimed := h.claimed ▸ countStatus_pos hheld.found hheld.status
    refine h.replace hheld.found rfl ?_ ?_ ?_ ?_ rfl rfl h.acknowledgmentsTotal ?_
    · simp [hheld.status]
    · simp only [hheld.status, if_true, reduceCtorEq, if_false]
      omega
    · simp [hheld.status]
    · simp [hheld.status, hincrement hwithin.deadLetter]
    · rw [h.deadLetteredTotal]

lemma History.counted (h : History codec es data) (hfew : es.length ≤ u64Max) : Counted data := by
  induction h with
  | start tornTail => exact counted_start tornTail
  | @append es data e hhistory _ ih =>
    rw [length_append, length_singleton] at hfew
    have hcounted := ih (by omega)
    rcases settle_cases data e with happlies | hsame
    · exact happlies.counted hcounted hhistory.consistent hhistory.within (by omega)
    · rwa [hsame]

/-- A claim is recorded when a job is pending. -/
theorem Counted.pending_pos (h : Counted data) (hpermitted : Permitted data e)
    (hclaimed : e.isClaimed = true) : 0 < data.pending := by
  cases e with
  | claimed =>
    obtain ⟨-, job, hget, hpending, -⟩ := hpermitted
    exact h.pending ▸ countStatus_pos hget hpending
  | _ => simp [WalEvent.isClaimed] at hclaimed

/-- The end of a claim is recorded when a job is claimed. -/
theorem Counted.claimed_pos (h : Counted data) (hpermitted : Permitted data e)
    {jobId claimToken : String} (hlease : e.leaseEvent = some (.finish jobId claimToken)) :
    0 < data.claimed := by
  cases e with
  | enqueued | claimed => simp [WalEvent.leaseEvent] at hlease
  | released | acknowledged | deadLettered =>
    obtain ⟨job, lease, hheld⟩ := hpermitted
    exact h.claimed ▸ countStatus_pos hheld.found hheld.status

/-! ## Whole lives of a queue -/

variable {path : String} {actions : List (Action Value)} [BEq Value]

/-- Through the whole run fewer than `2 ^ 64 - 1` events are written. -/
def FewEvents (codec : Codec Value) (path : String) (actions : List (Action Value)) : Prop :=
  ∀ before, before <+: actions →
    (World.after codec path before).disk.written.length < u64Max

lemma FewEvents.bounded (h : FewEvents codec path actions) : BoundedRun codec path actions :=
  fun before hpre => ⟨countP_le_length.trans_lt (h before hpre),
    countP_le_length.trans_lt (h before hpre)⟩

/-- While the queue runs, after any calls, failed writes and restarts: the counters count what
they are named after, and the four statuses make up all jobs. No subtraction has gone below
zero, for any event of the log: where a claim is recorded a job is pending, and where a claim
ends a job is claimed. -/
theorem queue_counters_exact (hfew : FewEvents codec path actions) {inner : StoreInner Value}
    (hrunning : World.after codec path actions = .running inner) :
    Counted inner.data ∧
    inner.data.pending + inner.data.claimed + inner.data.completed + inner.data.deadLetter =
      inner.data.jobs.size ∧
    ∀ es e es', inner.wal.disk.appended = es ++ e :: es' →
      ∃ data, replayEvents (.start 0) es = .ok data ∧
        (e.isClaimed = true → 0 < data.pending) ∧
        ∀ jobId claimToken, e.leaseEvent = some (.finish jobId claimToken) →
          0 < data.claimed := by
  have halive := World.alive_after codec path actions
  have hsound := World.sound_after hfew.bounded
  have hlength := hfew actions prefix_rfl
  rw [hrunning] at halive hsound hlength
  have hhistory := halive.2.history
  have hwritten : inner.wal.disk.appended.length < u64Max := by
    simp only [World.disk, Disk.written, length_append] at hlength
    omega
  have hcounted := hhistory.counted hwritten.le
  refine ⟨hcounted, ?_, ?_⟩
  · rw [hcounted.pending, hcounted.claimed, hcounted.completed, hcounted.deadLetter,
      countStatus_sum]
  · intro es e es' hsplit
    obtain ⟨earlier, hearlier, hchecked⟩ := hhistory.checked_of_split hsplit
    -- the whole log replays, so its beginning does, to the data the event was checked against
    obtain ⟨tornTail, hreplayed⟩ := hsound.2.replayed
    have hreplayed' := replayEvents_setTornTail 0 hreplayed
    rw [hsplit] at hreplayed'
    obtain ⟨data, hdata, -⟩ := replayEvents_of_append hreplayed'
    have hsame : data = earlier.setTornTail 0 := by
      obtain ⟨oldTail, rfl⟩ := hearlier.settled
      rw [← settleAll_of_replayEvents hdata, ← settleAll_setTornTail]
      rfl
    subst hsame
    have hlengths := congrArg List.length hsplit
    rw [length_append, length_cons] at hlengths
    have hcounted' := (hearlier.setTornTail 0).counted (by omega)
    have hpermitted := (hchecked.setTornTail 0).1
    exact ⟨_, hdata, hcounted'.pending_pos hpermitted,
      fun jobId claimToken => hcounted'.claimed_pos hpermitted⟩

lemma fewEvents_iff :
    FewEvents codec path actions ↔ ∀ before ∈ actions.inits,
      (World.after codec path before).disk.written.length < u64Max := by
  simp [FewEvents, mem_inits]

/-- The store of a queue that runs. -/
def World.store? : World Value → Option (StoreInner Value)
  | .running inner => some inner
  | .stopped _ => none

omit [BEq Value] in
lemma World.eq_running_of_store? {w : World Value} {inner : StoreInner Value}
    (h : w.store? = some inner) : w = .running inner := by
  cases w with
  | running inner' => rw [Option.some.inj h]
  | stopped disk => simp [World.store?] at h

/-- Two of three jobs are claimed, and one of them fails. -/
def mixedJobs : List (Action Unit) :=
  [.reopen,
    .call (.enqueue { idempotencyKey := "first", payload := () }) 100 [],
    .call (.enqueue { idempotencyKey := "second", payload := (), maxAttempts := 1 }) 101 [],
    .call (.enqueue { idempotencyKey := "third", payload := () }) 102 [],
    .call (.claim { consumerId := "consumer-a" }) 110 [],
    .call (.claim { consumerId := "consumer-b" }) 111 [],
    .call (.fail "batch-00000002" {
      consumerId := "consumer-b", claimToken := "claim-000000000002",
      error := "out of memory" }) 120 []]

theorem queue_counters_exact_mixedJobs :
    FewEvents exampleCodec "events.wal" mixedJobs ∧
    ∃ inner, World.after exampleCodec "events.wal" mixedJobs = .running inner ∧
      inner.data.claimed = 1 ∧ inner.data.deadLetter = 1 ∧
      inner.data.claimsTotal = 2 ∧ Counted inner.data := by
  have hfew : FewEvents exampleCodec "events.wal" mixedJobs :=
    fewEvents_iff.mpr (by decide +kernel)
  obtain ⟨inner, hstore, hcounters⟩ := Option.map_eq_some_iff.mp
    (show (World.after exampleCodec "events.wal" mixedJobs).store?.map (fun inner =>
        (inner.data.claimed, inner.data.deadLetter, inner.data.claimsTotal)) = some (1, 1, 2)
      by decide +kernel)
  have hrunning := World.eq_running_of_store? hstore
  simp only [Prod.mk.injEq] at hcounters
  exact ⟨hfew, inner, hrunning, hcounters.1, hcounters.2.1, hcounters.2.2,
    (queue_counters_exact hfew hrunning).1⟩

end InferLab.BatchQueue
