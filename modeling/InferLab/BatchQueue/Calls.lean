import InferLab.BatchQueue.Invariant
import Mathlib.Logic.Relation

/-!
# Calls as sequences of records

`call_checked`: whatever a call does to the store it does by recording events that it has
checked, and these are permitted (`call_records`). What is proved about one record therefore
holds of every call. The sweep of the expired claims is the only loop;
`refreshExpiredClaims_eq_ok` says what is left after it.
-/

namespace InferLab.BatchQueue

open List Option

variable {Value : Type} (codec : Codec Value)

/-- One permitted record, whatever becomes of it. -/
def RecordStep (a b : StoreInner Value) : Prop :=
  ∃ e, Permitted a.data e ∧ b = (a.record codec e).inner

def Records : StoreInner Value → StoreInner Value → Prop :=
  Relation.ReflTransGen (RecordStep codec)

/-- The claim of the job ends without success: `exhausted` says whether the attempts are used
up, and `expired` whether the lease has run out. -/
def Unsuccessful (data : QueueData Value) (jobId : String) (exhausted expired : Bool)
    (atMs : ℕ) : Prop :=
  ∃ job lease, data.jobs[jobId]? = some job ∧ job.activeClaim = some lease ∧
    (exhausted = true ↔ job.maxAttempts ≤ job.attempts) ∧
    (expired = true ↔ lease.visibilityDeadlineMs ≤ atMs)

/-- What the code checks of a request, of the attempts and of the clock before it records an
event. -/
def Due (data : QueueData Value) : WalEvent Value → Prop
  | .enqueued _ idempotencyKey payload maxAttempts _ =>
    validateNonemptyLimited "idempotency_key" idempotencyKey maxIdempotencyKeyBytes = .ok () ∧
      (1 ≤ maxAttempts ∧ maxAttempts ≤ maxAttemptsLimit) ∧
      codec.payloadLength payload ≤ maxPayloadBytes
  | .claimed .. => True
  | .released jobId _ _ expired atMs => Unsuccessful data jobId false expired atMs
  | .acknowledged .. => True
  | .deadLettered jobId _ _ expired atMs => Unsuccessful data jobId true expired atMs

def Checked (data : QueueData Value) (e : WalEvent Value) : Prop :=
  Permitted data e ∧ Due codec data e

/-- One record of an event that was checked, and is one of `kinds`. -/
def CheckedStep (kinds : WalEvent Value → Prop) (a b : StoreInner Value) : Prop :=
  ∃ e, Checked codec a.data e ∧ kinds e ∧ b = (a.record codec e).inner

def CheckedRecords (kinds : WalEvent Value → Prop) :
    StoreInner Value → StoreInner Value → Prop :=
  Relation.ReflTransGen (CheckedStep codec kinds)

variable {codec} {inner inner' : StoreInner Value} {e : WalEvent Value} {α β : Type}
  {kinds : WalEvent Value → Prop}

lemma CheckedRecords.records (h : CheckedRecords codec kinds inner inner') :
    Records codec inner inner' := by
  induction h with
  | refl => exact .refl
  | tail _ hlast ih =>
    obtain ⟨e, hchecked, -, heq⟩ := hlast
    exact ih.tail ⟨e, hchecked.1, heq⟩

lemma CheckedRecords.refl : CheckedRecords codec kinds inner inner := Relation.ReflTransGen.refl

lemma CheckedRecords.single (h : Checked codec inner.data e) (hkind : kinds e) :
    CheckedRecords codec kinds inner (inner.record codec e).inner :=
  Relation.ReflTransGen.single ⟨e, h, hkind, rfl⟩

variable {next : α → StoreInner Value → Reply Value β}

/-- A call that stops at an error has made the records before it. -/
theorem CheckedRecords.andThen {reply : Reply Value α}
    (h : CheckedRecords codec kinds inner reply.inner)
    (hnext : ∀ a, reply.result = .ok a →
      CheckedRecords codec kinds reply.inner (next a reply.inner).inner) :
    CheckedRecords codec kinds inner (reply.andThen next).inner := by
  unfold Reply.andThen
  cases hresult : reply.result with
  | error error => exact h
  | ok a => exact h.trans (hnext a hresult)

/-- A check changes nothing. -/
theorem CheckedRecords.check {result : Except QueueError α}
    (hnext : ∀ a, result = .ok a → CheckedRecords codec kinds inner (next a inner).inner) :
    CheckedRecords codec kinds inner ((inner.check result).andThen next).inner :=
  .andThen .refl hnext

lemma andThen_eq_ok {reply : Reply Value α} {b : β} (h : (reply.andThen next).result = .ok b) :
    ∃ a, reply.result = .ok a ∧ reply.andThen next = next a reply.inner := by
  unfold Reply.andThen at h ⊢
  cases hresult : reply.result with
  | error error => simp [hresult] at h
  | ok a => exact ⟨a, rfl, rfl⟩

/-- A record that succeeds has applied its event. -/
theorem StoreInner.record_eq_ok (h : (inner.record codec e).result = .ok ()) :
    applyEvent inner.data e = .ok (inner.record codec e).inner.data ∧
      inner.wal.poisoned = none ∧
      (inner.record codec e).inner.wal.disk = inner.wal.disk.append codec e := by
  unfold StoreInner.record Wal.append at h ⊢
  cases hpoisoned : inner.wal.poisoned with
  | some reason => simp [hpoisoned] at h
  | none =>
    cases houtcome : inner.wal.disk.outcomes.head?.getD .synced with
    | failed atSync kept error => simp [hpoisoned, houtcome] at h
    | synced =>
      simp only [hpoisoned, houtcome] at h ⊢
      cases happly : applyEvent inner.data e with
      | error error => simp [happly] at h
      | ok data => exact ⟨rfl, trivial, rfl⟩

/-! ## The sweep -/

variable {jobId claimToken reason : String} {exhausted expired : Bool} {atMs nowMs : ℕ}
  {data data' : QueueData Value} {job : JobRecord Value} {lease : ClaimLease}

lemma failureEvent_leaseEvent :
    (failureEvent jobId claimToken reason exhausted expired atMs : WalEvent Value).leaseEvent =
      some (.finish jobId claimToken) := by
  cases exhausted <;> rfl

lemma failureEvent_isEnqueued :
    (failureEvent jobId claimToken reason exhausted expired atMs : WalEvent Value).isEnqueued =
      false := by
  cases exhausted <;> rfl

lemma checked_failureEvent (h : Held data jobId claimToken job lease)
    (hexhausted : exhausted = true ↔ job.maxAttempts ≤ job.attempts)
    (hexpired : expired = true ↔ lease.visibilityDeadlineMs ≤ atMs) :
    Checked codec data (failureEvent jobId claimToken reason exhausted expired atMs) := by
  have hends : Unsuccessful data jobId exhausted expired atMs :=
    ⟨job, lease, h.found, h.active, hexhausted, hexpired⟩
  cases exhausted <;> exact ⟨⟨job, lease, h⟩, hends⟩

/-- The sweep ends claims that are active, of different jobs. -/
structure Sweepable (data : QueueData Value) (claims : List (String × String × Bool)) : Prop where
  held : ∀ c ∈ claims, ∃ job lease, Held data c.1 c.2.1 job lease
  distinct : claims.Pairwise fun c c' => c.1 ≠ c'.1

lemma sweepable_expiredClaims : Sweepable data (expiredClaims data nowMs) := by
  constructor
  case held =>
    intro c hc
    obtain ⟨⟨id, job⟩, hmem, hsome⟩ := mem_filterMap.mp hc
    rw [Std.TreeMap.mem_toList_iff_getElem?_eq_some] at hmem
    cases hactive : job.activeClaim with
    | none => simp [hactive] at hsome
    | some lease =>
      simp only [hactive, bind_some, ite_none_right_eq_some, some.injEq]
        at hsome
      obtain ⟨⟨hstatus, -⟩, rfl⟩ := hsome
      exact ⟨job, lease, hmem, hstatus, hactive, rfl⟩
  case distinct =>
    refine List.Pairwise.filterMap _ ?_ Std.TreeMap.distinct_keys_toList
    rintro ⟨id, job⟩ ⟨id', job'⟩ hne c hc c' hc'
    simp only [bind_eq_some_iff, ite_none_right_eq_some, some.injEq]
      at hc hc'
    obtain ⟨_, _, -, rfl⟩ := hc
    obtain ⟨_, _, -, rfl⟩ := hc'
    intro heq
    exact hne (heq ▸ Std.ReflCmp.compare_self)

variable {claims : List (String × String × Bool)}

/-- After one claim is ended its job has none, and the others are as they were. -/
theorem Sweepable.tail
    (h : Sweepable data ((jobId, claimToken, exhausted) :: claims))
    (happly : applyEvent data (failureEvent jobId claimToken reason exhausted expired atMs) =
      .ok data') :
    Sweepable data' claims ∧ (∀ id, id ≠ jobId → data'.jobs[id]? = data.jobs[id]?) ∧
      ∃ job', data'.jobs[jobId]? = some job' ∧ job'.status ≠ .claimed := by
  obtain ⟨job, lease, hheld⟩ := h.held _ mem_cons_self
  obtain ⟨data₀, job', happly', hjobs, hstatus, -⟩ :=
    applyEvent_finish hheld failureEvent_leaseEvent
  obtain rfl : data₀ = data' := Except.ok.inj (happly'.symm.trans happly)
  have hother : ∀ id, id ≠ jobId → data₀.jobs[id]? = data.jobs[id]? := by
    intro id hne
    rw [hjobs, getElem?_insert_eq, if_neg hne]
  obtain ⟨hne, hdistinct⟩ := pairwise_cons.mp h.distinct
  refine ⟨⟨fun c hc => ?_, hdistinct⟩, hother, job', ?_, hstatus⟩
  · obtain ⟨job₁, lease₁, hheld₁⟩ := h.held c (mem_cons_of_mem _ hc)
    exact ⟨job₁, lease₁, by rw [hother _ (hne c hc).symm]; exact hheld₁.found, hheld₁.status,
      hheld₁.active, hheld₁.token⟩
  · rw [hjobs, getElem?_insert_eq, if_pos rfl]

/-- The claims to sweep are those of `expired_claims`: their leases have run out, and they say
whether the attempts are used up. -/
structure Overdue (data : QueueData Value) (nowMs : ℕ)
    (claims : List (String × String × Bool)) : Prop extends Sweepable data claims where
  due : ∀ c ∈ claims, Unsuccessful data c.1 c.2.2 true nowMs

lemma overdue_expiredClaims : Overdue data nowMs (expiredClaims data nowMs) := by
  refine ⟨sweepable_expiredClaims, fun c hc => ?_⟩
  obtain ⟨⟨id, job⟩, hmem, hsome⟩ := mem_filterMap.mp hc
  rw [Std.TreeMap.mem_toList_iff_getElem?_eq_some] at hmem
  simp only [bind_eq_some_iff, ite_none_right_eq_some, some.injEq] at hsome
  obtain ⟨lease, hactive, ⟨-, hdeadline⟩, rfl⟩ := hsome
  exact ⟨job, lease, hmem, hactive, decide_eq_true_iff, by simp [hdeadline]⟩

lemma Overdue.tail
    (h : Overdue data nowMs ((jobId, claimToken, exhausted) :: claims))
    (happly : applyEvent data (failureEvent jobId claimToken reason exhausted expired atMs) =
      .ok data') : Overdue data' nowMs claims := by
  obtain ⟨hsweep, hother, -⟩ := h.toSweepable.tail happly
  refine ⟨hsweep, fun c hc => ?_⟩
  obtain ⟨job, lease, hfound, hdue⟩ := h.due c (mem_cons_of_mem _ hc)
  have hne : c.1 ≠ jobId := ((pairwise_cons.mp h.distinct).1 c hc).symm
  exact ⟨job, lease, by rw [hother _ hne]; exact hfound, hdue⟩

/-- The claim that is swept first passes the check of its event. -/
theorem Overdue.checked (h : Overdue data nowMs ((jobId, claimToken, exhausted) :: claims)) :
    Checked codec data (failureEvent jobId claimToken reason exhausted true nowMs) := by
  obtain ⟨job, lease, hheld⟩ := h.held _ mem_cons_self
  obtain ⟨job', lease', hfound, hactive, hexhausted, hexpired⟩ := h.due _ mem_cons_self
  obtain rfl : job = job' := some.inj (hheld.found.symm.trans hfound)
  obtain rfl : lease = lease' := some.inj (hheld.active.symm.trans hactive)
  exact checked_failureEvent hheld hexhausted hexpired

lemma expireAll_checked (h : Overdue inner.data nowMs claims) :
    CheckedRecords codec (·.isEnqueued = false) inner
      (expireAll codec nowMs claims inner).inner := by
  induction claims generalizing inner with
  | nil => exact .refl
  | cons c claims ih =>
    obtain ⟨jobId, claimToken, exhausted⟩ := c
    refine .andThen (.single h.checked failureEvent_isEnqueued) fun _ hok => ih ?_
    exact h.tail (StoreInner.record_eq_ok hok).1

lemma refreshExpiredClaims_checked :
    CheckedRecords codec (·.isEnqueued = false) inner
      (refreshExpiredClaims codec inner nowMs).inner :=
  expireAll_checked overdue_expiredClaims

/-- The sweep leaves the jobs it was not given, and ends the claims of the others. -/
theorem expireAll_eq_ok (h : Sweepable inner.data claims)
    (hok : (expireAll codec nowMs claims inner).result = .ok ()) (id : String) :
    ((∀ c ∈ claims, c.1 ≠ id) →
      (expireAll codec nowMs claims inner).inner.data.jobs[id]? = inner.data.jobs[id]?) ∧
    ((∃ c ∈ claims, c.1 = id) → ∀ job : JobRecord Value,
      (expireAll codec nowMs claims inner).inner.data.jobs[id]? = some job →
        job.status ≠ .claimed) := by
  induction claims generalizing inner with
  | nil => exact ⟨fun _ => rfl, fun ⟨c, hc, _⟩ => by simp at hc⟩
  | cons c claims ih =>
    obtain ⟨jobId, claimToken, exhausted⟩ := c
    rw [expireAll] at hok ⊢
    obtain ⟨_, hrecord, heq⟩ := andThen_eq_ok hok
    rw [heq] at hok ⊢
    obtain ⟨hsweep, hother, job', hget, hstatus⟩ :=
      h.tail (StoreInner.record_eq_ok hrecord).1
    obtain ⟨hleft, hended⟩ := ih hsweep hok
    have hdistinct := (pairwise_cons.mp h.distinct).1
    constructor
    · intro hnot
      rw [hleft fun c hc => hnot c (mem_cons_of_mem _ hc)]
      exact hother id (hnot _ mem_cons_self).symm
    · rintro ⟨c, hc, hid⟩ job hjob
      rcases mem_cons.mp hc with rfl | hrest
      · -- the job's own claim is ended first, and no later one is of the same job
        obtain rfl : jobId = id := hid
        rw [hleft fun c hc => (hdistinct c hc).symm, hget] at hjob
        exact some.inj hjob ▸ hstatus
      · exact hended ⟨c, hrest, hid⟩ job hjob

/-- After the sweep a claimed job is one that was claimed before, and its lease still runs. -/
theorem refreshExpiredClaims_eq_ok
    (hok : (refreshExpiredClaims codec inner nowMs).result = .ok ())
    (hget : (refreshExpiredClaims codec inner nowMs).inner.data.jobs[jobId]? = some job)
    (hstatus : job.status = .claimed) (hactive : job.activeClaim = some lease) :
    inner.data.jobs[jobId]? = some job ∧ nowMs < lease.visibilityDeadlineMs := by
  obtain ⟨hleft, hended⟩ := expireAll_eq_ok sweepable_expiredClaims hok jobId
  have hnot : ∀ c ∈ expiredClaims inner.data nowMs, c.1 ≠ jobId := by
    intro c hc hid
    exact hended ⟨c, hc, hid⟩ job hget hstatus
  have hbefore : inner.data.jobs[jobId]? = some job := (hleft hnot).symm.trans hget
  refine ⟨hbefore, ?_⟩
  by_contra hle
  -- an expired lease would have been swept
  refine hnot (jobId, lease.claimToken, decide (job.attempts ≥ job.maxAttempts))
    (mem_filterMap.mpr ⟨(jobId, job), ?_, ?_⟩) rfl
  · exact Std.TreeMap.mem_toList_iff_getElem?_eq_some.mpr hbefore
  · simp only [hactive, bind_some]
    rw [if_pos ⟨hstatus, by omega⟩]

/-! ## The calls -/

lemma requireActiveClaim_eq_ok {consumerId : String}
    (h : requireActiveClaim data jobId consumerId claimToken = .ok ()) :
    ∃ job lease, Held data jobId claimToken job lease ∧ lease.consumerId = consumerId := by
  unfold requireActiveClaim at h
  cases hget : data.jobs[jobId]? with
  | none => simp [hget] at h
  | some job =>
    simp only [hget] at h
    split_ifs at h with hstale
    simp only [not_or, not_not] at hstale
    obtain ⟨hstatus, hany⟩ := hstale
    obtain ⟨lease, hactive, hconsumer, htoken⟩ : ∃ lease, job.activeClaim = some lease ∧
        lease.consumerId = consumerId ∧ lease.claimToken = claimToken := by
      simpa [Option.any_eq_true] using hany
    exact ⟨job, lease, ⟨hget, hstatus, hactive, htoken⟩, hconsumer⟩

/-- A call that only reads makes the records of the sweep. -/
theorem CheckedRecords.read (result : StoreInner Value → Except QueueError α) :
    CheckedRecords codec (·.isEnqueued = false) inner
      ((refreshExpiredClaims codec inner nowMs).andThen
      fun () inner => inner.check (result inner)).inner :=
  .andThen refreshExpiredClaims_checked fun _ _ => .refl

lemma requireLease_checked {consumerId : String} :
    CheckedRecords codec (·.isEnqueued = false) inner
      (requireLease codec inner jobId consumerId claimToken nowMs).inner :=
  .read _

/-- A claim that passes the check is active, and its lease has not run out. -/
theorem requireLease_eq_ok {consumerId : String}
    (h : (requireLease codec inner jobId consumerId claimToken nowMs).result = .ok ()) :
    ∃ job lease,
      Held (requireLease codec inner jobId consumerId claimToken nowMs).inner.data jobId
        claimToken job lease ∧
      Held inner.data jobId claimToken job lease ∧ lease.consumerId = consumerId ∧
      nowMs < lease.visibilityDeadlineMs := by
  unfold requireLease at h ⊢
  obtain ⟨_, hsweep, heq⟩ := andThen_eq_ok h
  rw [heq] at h ⊢
  obtain ⟨job, lease, hheld, hconsumer⟩ := requireActiveClaim_eq_ok h
  obtain ⟨hbefore, hlt⟩ :=
    refreshExpiredClaims_eq_ok hsweep hheld.found hheld.status hheld.active
  exact ⟨job, lease, hheld, ⟨hbefore, hheld.status, hheld.active, hheld.token⟩, hconsumer, hlt⟩

lemma enqueue_checked [BEq Value] (request : EnqueueRequest Value) :
    CheckedRecords codec (·.isEnqueued = true) inner (enqueue codec inner request nowMs).inner := by
  unfold enqueue
  refine .check fun _ hvalid => ?_
  split
  · exact .refl
  rename_i hlimit
  split
  · exact .refl
  rename_i hbytes
  split
  · split
    · exact .refl
    · split <;> exact .refl
  · rename_i hkey
    refine .andThen (.single ⟨⟨rfl, hkey⟩, hvalid, not_not.mp hlimit, not_lt.mp hbytes⟩ rfl)
      fun _ _ => ?_
    split <;> exact .refl

lemma firstPending_eq_some {id : String} (h : firstPending data = some id)
    (hget : data.jobs[id]? = some job) : job.status = .pending := by
  obtain ⟨⟨id', job'⟩, hmem, hsome⟩ := exists_of_findSome?_eq_some h
  simp only [ite_none_right_eq_some, some.injEq] at hsome
  obtain ⟨hstatus, rfl⟩ := hsome
  rw [Std.TreeMap.mem_toList_iff_getElem?_eq_some, hget] at hmem
  exact some.inj hmem ▸ hstatus

variable {request : ClaimRequest}

lemma claimJob_checked (hget : inner.data.jobs[jobId]? = some job)
    (hpending : job.status = .pending) :
    CheckedRecords codec (·.isEnqueued = false) inner
      (claimJob codec inner request nowMs jobId job).inner := by
  refine .andThen (.single ⟨⟨rfl, job, hget, hpending, rfl⟩, trivial⟩ rfl) fun _ _ => ?_
  split <;> exact .refl

lemma claim_checked (request : ClaimRequest) :
    CheckedRecords codec (·.isEnqueued = false) inner (claim codec inner request nowMs).inner := by
  unfold claim
  refine .check fun _ _ => ?_
  split
  · exact .refl
  refine .andThen refreshExpiredClaims_checked fun _ _ => ?_
  unfold claimFirst
  split
  · exact .refl
  rename_i jobId hfirst
  split
  · exact .refl
  · rename_i job hget
    exact claimJob_checked hget (firstPending_eq_some hfirst hget)

lemma acknowledge_checked (request : AckRequest) :
    CheckedRecords codec (·.isEnqueued = false) inner
      (acknowledge codec inner jobId request nowMs).inner := by
  unfold acknowledge
  refine .check fun _ _ => .check fun _ _ => .andThen requireLease_checked fun _ hok => ?_
  obtain ⟨job, lease, hheld, -⟩ := requireLease_eq_ok hok
  exact .andThen (.single ⟨⟨job, lease, hheld⟩, trivial⟩ rfl) fun _ _ => .refl

lemma fail_checked (request : FailRequest) :
    CheckedRecords codec (·.isEnqueued = false) inner
      (fail codec inner jobId request nowMs).inner := by
  unfold fail
  refine .check fun _ _ => .check fun _ _ => .check fun _ _ =>
    .andThen requireLease_checked fun _ hok => ?_
  obtain ⟨job, lease, hheld, -, -, hlt⟩ := requireLease_eq_ok hok
  split
  · exact .refl
  · rename_i job' hget
    obtain rfl : job = job' := some.inj (hheld.found.symm.trans hget)
    exact .andThen (.single (checked_failureEvent hheld decide_eq_true_iff (by simp [hlt]))
      failureEvent_isEnqueued) fun _ _ => .refl

/-! ## What an answer says -/

/-- In `inner` the claim of `response` is recorded, under the next token, and that is all. -/
structure Claims (codec : Codec Value) (inner : StoreInner Value)
    (response : ClaimResponse Value) (after : StoreInner Value) : Prop where
  token : response.claimToken = claimTokenOf inner.data.nextClaimNumber
  recorded : ∃ e : WalEvent Value,
    e.leaseEvent = some (.grant response.jobId response.claimToken) ∧
      (inner.record codec e).result = .ok () ∧ after = (inner.record codec e).inner

variable {response : ClaimResponse Value}

lemma claimJob_eq_ok
    (h : (claimJob codec inner request nowMs jobId job).result = .ok (some response)) :
    Claims codec inner response (claimJob codec inner request nowMs jobId job).inner := by
  unfold claimJob at h ⊢
  obtain ⟨_, hrecord, heq⟩ := andThen_eq_ok h
  rw [heq] at h ⊢
  clear heq
  generalize hreply : inner.record codec _ = reply at h hrecord ⊢
  cases hget : reply.inner.data.jobs[jobId]? with
  | none => simp [hget, StoreInner.check] at h
  | some job' =>
    simp only [hget, StoreInner.check, Except.ok.injEq, some.injEq] at h ⊢
    subst h hreply
    exact ⟨rfl, _, rfl, hrecord, rfl⟩

lemma claimFirst_eq_ok (h : (claimFirst codec inner request nowMs).result = .ok (some response)) :
    Claims codec inner response (claimFirst codec inner request nowMs).inner := by
  unfold claimFirst at h ⊢
  cases hfirst : firstPending inner.data with
  | none => simp [StoreInner.check, hfirst] at h
  | some jobId =>
    cases hget : inner.data.jobs[jobId]? with
    | none => simp [StoreInner.check, hfirst, hget] at h
    | some job =>
      simp only [hfirst, hget] at h ⊢
      exact claimJob_eq_ok h

/-- A claim that is answered is the last thing the call records. -/
theorem claim_eq_ok (h : (claim codec inner request nowMs).result = .ok (some response)) :
    ∃ mid, Records codec inner mid ∧
      Claims codec mid response (claim codec inner request nowMs).inner := by
  unfold claim at h ⊢
  obtain ⟨_, -, heq⟩ := andThen_eq_ok h
  rw [heq] at h ⊢
  by_cases hlimit : ¬ (1 ≤ request.visibilityTimeoutMs ∧
      request.visibilityTimeoutMs ≤ maxVisibilityTimeoutMs)
  · rw [if_pos hlimit] at h
    simp [StoreInner.check] at h
  · rw [if_neg hlimit] at h ⊢
    obtain ⟨_, -, heq⟩ := andThen_eq_ok h
    rw [heq] at h ⊢
    exact ⟨_, refreshExpiredClaims_checked.records, claimFirst_eq_ok h⟩

lemma acknowledge_eq_ok {request : AckRequest} {answer : JobRecord Value}
    (h : (acknowledge codec inner jobId request nowMs).result = .ok answer) :
    (requireLease codec inner jobId request.consumerId request.claimToken nowMs).result =
      .ok () := by
  unfold acknowledge at h
  obtain ⟨_, -, heq⟩ := andThen_eq_ok h
  rw [heq] at h
  obtain ⟨_, -, heq⟩ := andThen_eq_ok h
  rw [heq] at h
  obtain ⟨_, hlease, -⟩ := andThen_eq_ok h
  exact hlease

lemma fail_eq_ok {request : FailRequest} {answer : JobRecord Value}
    (h : (fail codec inner jobId request nowMs).result = .ok answer) :
    (requireLease codec inner jobId request.consumerId request.claimToken nowMs).result =
      .ok () := by
  unfold fail at h
  obtain ⟨_, -, heq⟩ := andThen_eq_ok h
  rw [heq] at h
  obtain ⟨_, -, heq⟩ := andThen_eq_ok h
  rw [heq] at h
  obtain ⟨_, -, heq⟩ := andThen_eq_ok h
  rw [heq] at h
  obtain ⟨_, hlease, -⟩ := andThen_eq_ok h
  exact hlease

/-- The events a call may record: one that enqueues if it is an enqueue, and else the others. -/
def Call.Records : Call Value → WalEvent Value → Prop
  | .enqueue _, e => e.isEnqueued = true
  | _, e => e.isEnqueued = false

/-- Whatever a call does to the store it does by recording events it has checked. -/
theorem call_checked [BEq Value] (request : Call Value) :
    CheckedRecords codec request.Records inner (inner.call codec nowMs request).inner := by
  cases request with
  | enqueue request => exact enqueue_checked request
  | claim request => exact claim_checked request
  | acknowledge jobId request => exact acknowledge_checked request
  | fail jobId request => exact fail_checked request
  | getJob jobId => exact .read (cloneJob ·.data jobId)
  | deadLetters =>
    show CheckedRecords codec (·.isEnqueued = false) inner (deadLetters codec inner nowMs).inner
    unfold deadLetters
    exact .read _
  | snapshot =>
    show CheckedRecords codec (·.isEnqueued = false) inner (snapshot codec inner nowMs).inner
    unfold snapshot
    exact .read _
  | metricsSnapshot => exact .refl

lemma call_records [BEq Value] (request : Call Value) :
    Records codec inner (inner.call codec nowMs request).inner :=
  (call_checked request).records

end InferLab.BatchQueue
