import InferLab.Checks
import InferLab.Gateway.Requests

/-!
# Gateway: what the requests hold

A step of a request is an exchange: what it takes from the counters and the semaphores it holds
afterwards. So every counter tells what the requests hold, in every interleaving, and the
semaphores bound it.
-/

namespace InferLab.Gateway

open Function Option List

/-! ## What a request holds of each counter and semaphore -/

/-- Whether a guard is for this worker. -/
def ofWorker (guard : Option ℕ) (worker : ℕ) : ℕ := if guard = some worker then 1 else 0

@[simp]
lemma ofWorker_none (worker : ℕ) : ofWorker none worker = 0 := rfl

@[simp]
lemma ofWorker_some (held worker : ℕ) :
    ofWorker (some held) worker = if worker = held then 1 else 0 := by
  simp only [ofWorker, some.injEq, @eq_comm _ held worker]

/-- What a request has in a counter. -/
def Request.counts (r : Request) : Counter → ℕ
  | .outstanding => r.point.held.outstanding.toNat
  | .queued => r.point.held.queued.toNat
  | .executing => r.point.held.executing.toNat
  | .inFlight worker => ofWorker r.point.held.lease worker
  | .originalRequests => r.point.hasStarted.toNat
  | .attempts => r.attemptsStarted
  | .retrySlotsUsed => r.retriesUsed + r.point.held.reservation.toNat
  | .retriesGranted => r.retriesUsed

/-- The permits of a request. -/
def Request.permits (r : Request) : Slots → ℕ
  | .outstanding => r.point.held.outstandingPermit.toNat
  | .queue => r.point.held.queuePermit.toNat
  | .execution worker => ofWorker r.point.held.executionPermit worker

/-- What a request takes from what is shared it has afterwards. -/
structure Exchange (s : Shared) (r : Request) (s' : Shared) (r' : Request) : Prop where
  counts : ∀ k, s'.counter k + r.counts k = s.counter k + r'.counts k
  permits : ∀ p, s'.available p + r'.permits p = s.available p + r.permits p
  capacity : s'.permits = s.permits
  workers : s'.workers = s.workers

namespace Exchange

variable {s s' : Shared} {r r' : Request} {k : Counter} {p : Slots}

/-- The request goes on with what it has. -/
theorem keep (hcounts : ∀ k, r'.counts k = r.counts k)
    (hpermits : ∀ p, r'.permits p = r.permits p) : Exchange s r s r' := by
  refine ⟨fun k => ?_, fun p => ?_, rfl, rfl⟩
  · rw [hcounts]
  · rw [hpermits]

lemma fetchAdd (hcounts : ∀ j, r'.counts j = r.counts j + if j = k then 1 else 0)
    (hpermits : ∀ p, r'.permits p = r.permits p) : Exchange s r (s.fetchAdd k) r' := by
  refine ⟨fun j => ?_, fun p => ?_, rfl, rfl⟩
  · rw [hcounts]
    by_cases hj : j = k
    · subst hj
      simp only [Shared.fetchAdd, update_self, if_true]
      omega
    · simp only [Shared.fetchAdd, update_of_ne hj, if_neg hj, Nat.add_zero]
  · rw [hpermits]
    rfl

/-- A counter goes down by what the request has in it, so it does not wrap around. -/
theorem fetchSub (hbacked : ∀ j, r.counts j ≤ s.counter j)
    (hcounts : ∀ j, r.counts j = r'.counts j + if j = k then 1 else 0)
    (hpermits : ∀ p, r'.permits p = r.permits p) : Exchange s r (s.fetchSub k) r' := by
  refine ⟨fun j => ?_, fun p => ?_, rfl, rfl⟩
  · have hle := hbacked j
    rw [hcounts] at hle ⊢
    by_cases hj : j = k
    · subst hj
      have hpos : s.counter j ≠ 0 := by
        rw [if_pos rfl] at hle
        omega
      simp only [Shared.fetchSub, update_self, if_neg hpos, if_true] at hle ⊢
      omega
    · simp only [Shared.fetchSub, update_of_ne hj, if_neg hj, Nat.add_zero]
  · rw [hpermits]
    rfl

lemma acquire (h : s.tryAcquire p = some s') (hcounts : ∀ k, r'.counts k = r.counts k)
    (hpermits : ∀ q, r'.permits q = r.permits q + if q = p then 1 else 0) : Exchange s r s' r' := by
  unfold Shared.tryAcquire at h
  by_cases hzero : s.available p = 0
  · simp [hzero] at h
  · rw [if_neg hzero] at h
    obtain rfl := some.inj h
    refine ⟨fun k => ?_, fun q => ?_, rfl, rfl⟩
    · rw [hcounts]
    · rw [hpermits]
      by_cases hq : q = p
      · subst hq
        simp only [update_self, if_true]
        omega
      · simp only [update_of_ne hq, if_neg hq, Nat.add_zero]

lemma release (hcounts : ∀ k, r'.counts k = r.counts k)
    (hpermits : ∀ q, r.permits q = r'.permits q + if q = p then 1 else 0) :
    Exchange s r (s.release p) r' := by
  refine ⟨fun k => ?_, fun q => ?_, rfl, rfl⟩
  · rw [hcounts]
    rfl
  · rw [hpermits]
    by_cases hq : q = p
    · subst hq
      simp only [Shared.release, update_self, if_true]
      omega
    · simp only [Shared.release, update_of_ne hq, if_neg hq, Nat.add_zero]

end Exchange

/-! ## How a request goes on -/

/-- Whether the attempt of this turn of the loop may have been made. -/
def Point.attempted : Point → Bool
  | .attempting _ | .failed _ _ _ | .reserving _ | .comparing _ _ _ | .yielding _ _ | .backingOff
  | .streaming _ | .unwinding _ => true
  | _ => false

/-- Whether the request is to make another turn. -/
def Point.retrying : Point → Bool
  | .comparing _ _ _ | .yielding _ _ | .backingOff => true
  | _ => false

/-- The allowance that the request has read. -/
def Point.allowance : Point → ℕ
  | .comparing _ allowed _ => allowed
  | _ => 0

/-- How a request goes on. -/
inductive Onward (config : RequestConfig) (s : Shared) (r : Request) : Request → Prop
  /-- To a point that is no further back. -/
  | goes {pool : List ℕ} {point : Point} (attempted : r.point.attempted ≤ point.attempted)
      (started : r.point.hasStarted ≤ point.hasStarted)
      (retrying : point.retrying ≤ r.point.retrying) (allowance : point.allowance = 0)
      (reservation : point.held.reservation ≤ r.point.held.reservation) :
      Onward config s r { r with pool := pool, point := point }
  | attempts {worker : ℕ} (point : r.point = .executing worker) : Onward config s r
      { r with attemptsStarted := r.attemptsStarted + 1, point := .attempting worker }
  | loads {response : Option ℕ} {originalRequests used : ℕ} (point : r.point = .reserving response)
      (retries : r.retriesUsed < config.maxRetries)
      (loaded : originalRequests ≤ s.counter .originalRequests) :
      Onward config s r (r.goTo (.comparing response
        (retryAllowance config.retryBudgetPercent originalRequests) used))
  | observes {response : Option ℕ} {allowed used observed : ℕ}
      (point : r.point = .comparing response allowed used) :
      Onward config s r (r.goTo (.comparing response allowed observed))
  | reserves {response : Option ℕ} {allowed used : ℕ}
      (point : r.point = .comparing response allowed used)
      (below : s.counter .retrySlotsUsed < allowed) : Onward config s r (r.retryReserved response)
  | grants (point : r.point = .backingOff) : Onward config s r
      { r with retriesUsed := r.retriesUsed + 1, point := .choosing }

/-- What a step of a request does: an exchange with what is shared, and a way on. -/
structure Stepped (config : RequestConfig) (s : Shared) (r : Request) (s' : Shared) (r' : Request) :
    Prop where
  exchange : Exchange s r s' r'
  onward : Onward config s r r'

section Steps

attribute [local simp] Request.counts Request.permits

variable {config : RequestConfig} {s s' : Shared} {r r' : Request} {choice : Choice} {worker : ℕ}

/-- The request goes to a point where it holds the same. -/
theorem Exchange.goTo {point : Point} (hheld : point.held = r.point.held)
    (hstarted : point.hasStarted = r.point.hasStarted) : Exchange s r s (r.goTo point) := by
  refine Exchange.keep (fun k => ?_) fun p => ?_
  · cases k <;> simp [hheld, hstarted]
  · cases p <;> simp [hheld]

/-- The first step of a drop of the guards takes what `Held.dropping` says. -/
theorem exchange_dropping (worker : ℕ) (dropping : Dropping) {point : Point}
    (hbacked : ∀ k, r.counts k ≤ s.counter k) (hstarted : r.point.hasStarted = true)
    (hstarted' : point.hasStarted = true) {reservation : Bool}
    (hheld : r.point.held = { Held.dropping worker dropping with reservation := reservation })
    (hheld' : point.held = match (dropping.step s worker).2 with
      | some next => { Held.dropping worker next with reservation := reservation }
      | none => { Held.admitted with reservation := reservation }) :
    Exchange s r (dropping.step s worker).1 (r.goTo point) := by
  cases dropping with
  | executing | lease =>
    refine Exchange.fetchSub hbacked (fun k => ?_) fun q => ?_
    · cases k <;> simp [hheld, hheld', hstarted, hstarted', Dropping.step, Held.dropping]
    · cases q <;> simp [hheld, hheld', Dropping.step, Held.dropping]
  | permit =>
    refine Exchange.release (fun k => ?_) fun q => ?_
    · cases k <;> simp [hheld, hheld', hstarted, hstarted', Dropping.step, Held.dropping]
    · cases q <;> simp [hheld, hheld', Dropping.step, Held.dropping]

lemma exchange_retryReserved {response : Option ℕ} (hheld : r.point.held = .responding response)
    (hstarted : r.point.hasStarted = true) :
    Exchange s r (s.fetchAdd .retrySlotsUsed) (r.retryReserved response) := by
  -- the request keeps its guards, and has a reservation besides
  obtain ⟨point, hgo, hstarted', hheld'⟩ : ∃ point, r.retryReserved response = r.goTo point ∧
      point.hasStarted = true ∧ point.held = { r.point.held with reservation := true } := by
    rw [hheld]
    cases response <;> exact ⟨_, rfl, rfl, rfl⟩
  have hnone : r.point.held.reservation = false := by
    rw [hheld]
    cases response <;> rfl
  rw [hgo]
  refine Exchange.fetchAdd (fun k => ?_) fun q => ?_
  · cases k <;> simp [hheld', hnone, hstarted, hstarted']
  · cases q <;> simp [hheld']

attribute [local simp] Point.held Point.hasStarted

lemma Stepped.goTo {point : Point} (hheld : point.held = r.point.held)
    (hstarted : point.hasStarted = r.point.hasStarted)
    (hattempted : r.point.attempted ≤ point.attempted)
    (hretrying : point.retrying ≤ r.point.retrying) (hallowance : point.allowance = 0) :
    Stepped config s r s (r.goTo point) :=
  ⟨.goTo hheld hstarted, .goes hattempted hstarted.ge hretrying hallowance (by rw [hheld])⟩

lemma Stepped.finish (h : r.point.hasStarted = true) : Stepped config s r s r.finish :=
  .goTo rfl h.symm (Bool.le_true _) (Bool.false_le _) rfl

lemma stepped_tryAdmitRequest (h : r.tryAdmitRequest s choice = some (s', r')) :
    Stepped config s r s' r' := by
  obtain ⟨pool, retriesUsed, attemptsStarted, point⟩ := r
  cases choice with
  | proceed =>
    cases point with
    | arriving =>
      simp only [Request.tryAdmitRequest] at h
      cases hacquire : s.tryAcquire .outstanding with
      | none =>
        rw [hacquire] at h
        cases h
        exact .goTo rfl rfl le_rfl le_rfl rfl
      | some s₁ =>
        rw [hacquire] at h
        cases h
        refine ⟨.acquire hacquire (fun k => ?_) fun q => ?_, .goes le_rfl le_rfl le_rfl rfl le_rfl⟩
        · cases k <;> rfl
        · cases q <;> simp
    | admitting =>
      cases h
      refine ⟨.fetchAdd (fun k => ?_) fun q => ?_, .goes le_rfl le_rfl le_rfl rfl le_rfl⟩
      · cases k <;> simp
      · cases q <;> rfl
    | admitted =>
      cases h
      refine ⟨.fetchAdd (fun k => ?_) fun q => ?_, .goes le_rfl (Bool.le_true _) le_rfl rfl le_rfl⟩
      · cases k <;> simp
      · cases q <;> rfl
    | started =>
      cases h
      refine ⟨.keep (fun k => ?_) fun q => ?_, .goes le_rfl le_rfl le_rfl rfl le_rfl⟩
      · cases k <;> rfl
      · cases q <;> rfl
    | _ => cases h
  | fail =>
    cases point with
    | arriving =>
      cases h
      exact .goTo rfl rfl le_rfl le_rfl rfl
    | started =>
      cases h
      exact .finish rfl
    | _ => cases h
  | cancel =>
    cases point with
    | started =>
      cases h
      exact .finish rfl
    | _ => cases h
  | _ => cases h

lemma stepped_admitWorker (hbacked : ∀ k, r.counts k ≤ s.counter k)
    (hworker : r.point.held.lease = some worker)
    (h : r.admitWorker s worker choice = some (s', r')) : Stepped config s r s' r' := by
  obtain ⟨pool, retriesUsed, attemptsStarted, point⟩ := r
  cases choice with
  | proceed =>
    cases point with
    | leased w =>
      obtain rfl := some.inj hworker
      simp only [Request.admitWorker] at h
      cases hacquire : s.tryAcquire (.execution w) with
      | none =>
        rw [hacquire] at h
        cases h
        exact .goTo rfl rfl le_rfl le_rfl rfl
      | some s₁ =>
        rw [hacquire] at h
        cases h
        refine ⟨.acquire hacquire (fun k => ?_) fun q => ?_, .goes le_rfl le_rfl le_rfl rfl le_rfl⟩
        · cases k <;> rfl
        · cases q <;> simp
    | enqueueing w =>
      obtain rfl := some.inj hworker
      simp only [Request.admitWorker] at h
      cases hacquire : s.tryAcquire .queue with
      | none =>
        rw [hacquire] at h
        cases h
        exact .finish rfl
      | some s₁ =>
        rw [hacquire] at h
        cases h
        refine ⟨.acquire hacquire (fun k => ?_) fun q => ?_, .goes le_rfl le_rfl le_rfl rfl le_rfl⟩
        · cases k <;> rfl
        · cases q <;> simp
    | queueing w | entering w =>
      obtain rfl := some.inj hworker
      cases h
      refine ⟨.fetchAdd (fun k => ?_) fun q => ?_, .goes le_rfl le_rfl le_rfl rfl le_rfl⟩
      · cases k <;> simp
      · cases q <;> rfl
    | queued w =>
      obtain rfl := some.inj hworker
      obtain ⟨s₁, hacquire, h⟩ := bind_eq_some_iff.mp h
      cases h
      refine ⟨.acquire hacquire (fun k => ?_) fun q => ?_, .goes le_rfl le_rfl le_rfl rfl le_rfl⟩
      · cases k <;> rfl
      · cases q <;> simp
    | assigned w =>
      obtain rfl := some.inj hworker
      cases h
      refine ⟨.fetchSub hbacked (fun k => ?_) fun q => ?_, .goes le_rfl le_rfl le_rfl rfl le_rfl⟩
      · cases k <;> simp
      · cases q <;> rfl
    | dequeueing w =>
      obtain rfl := some.inj hworker
      cases h
      refine ⟨.release (fun k => ?_) fun q => ?_, .goes le_rfl le_rfl le_rfl rfl le_rfl⟩
      · cases k <;> rfl
      · cases q <;> simp
    | executing w =>
      obtain rfl := some.inj hworker
      cases h
      refine ⟨.fetchAdd (fun k => ?_) fun q => ?_, .attempts rfl⟩
      · cases k <;> simp
      · cases q <;> rfl
    | _ => cases h
  | fail =>
    cases point with
    | queued w | assigned w | executing w =>
      cases h
      exact .finish rfl
    | _ => cases h
  | cancel =>
    cases point with
    | queued w | assigned w =>
      cases h
      exact .finish rfl
    | _ => cases h
  | _ => cases h

lemma stepped_afterAttempt (hpoint : r.point = .attempting worker)
    (h : r.afterAttempt s worker choice = some (s', r')) : Stepped config s r s' r' := by
  obtain ⟨pool, retriesUsed, attemptsStarted, point⟩ := r
  obtain rfl : point = .attempting worker := hpoint
  cases choice with
  | attempted result =>
    cases result with
    | response transient =>
      cases transient <;> cases h <;> exact .goTo rfl rfl le_rfl le_rfl rfl
    | error retryable =>
      cases h
      exact .goTo rfl rfl le_rfl le_rfl rfl
  | cancel =>
    cases h
    exact .finish rfl
  | _ => cases h

lemma stepped_afterFailure (hbacked : ∀ k, r.counts k ≤ s.counter k) {dropping : Dropping}
    {retryable : Bool} (hpoint : r.point = .failed worker dropping retryable)
    (h : r.afterFailure s worker dropping retryable choice = some (s', r')) :
    Stepped config s r s' r' := by
  obtain ⟨pool, retriesUsed, attemptsStarted, point⟩ := r
  obtain rfl : point = .failed worker dropping retryable := hpoint
  unfold Request.afterFailure at h
  cases dropping with
  | executing =>
    obtain ⟨-, h⟩ := ite_none_right_eq_some.mp h
    cases h
    exact ⟨exchange_dropping worker .executing hbacked rfl rfl rfl rfl,
      .goes le_rfl le_rfl le_rfl rfl le_rfl⟩
  | permit =>
    obtain ⟨-, h⟩ := ite_none_right_eq_some.mp h
    cases h
    exact ⟨exchange_dropping worker .permit hbacked rfl rfl rfl rfl,
      .goes le_rfl le_rfl le_rfl rfl le_rfl⟩
  | lease =>
    cases choice with
    | proceed =>
      simp only [Dropping.step] at h
      cases h
      cases retryable <;> exact ⟨exchange_dropping worker .lease hbacked rfl rfl rfl rfl,
        .goes le_rfl le_rfl le_rfl rfl le_rfl⟩
    | fail =>
      cases h
      exact ⟨exchange_dropping worker .lease hbacked rfl rfl rfl rfl,
        .goes le_rfl le_rfl le_rfl rfl le_rfl⟩
    | _ => cases h

lemma stepped_yieldResponse (hbacked : ∀ k, r.counts k ≤ s.counter k) {dropping : Dropping}
    (hpoint : r.point = .yielding worker dropping)
    (h : r.yieldResponse s worker dropping choice = some (s', r')) : Stepped config s r s' r' := by
  obtain ⟨pool, retriesUsed, attemptsStarted, point⟩ := r
  obtain rfl : point = .yielding worker dropping := hpoint
  unfold Request.yieldResponse at h
  obtain ⟨-, h⟩ := ite_none_right_eq_some.mp h
  cases dropping with
  | executing =>
    cases h
    exact ⟨exchange_dropping worker .executing hbacked rfl rfl rfl rfl,
      .goes le_rfl le_rfl le_rfl rfl le_rfl⟩
  | permit =>
    cases h
    exact ⟨exchange_dropping worker .permit hbacked rfl rfl rfl rfl,
      .goes le_rfl le_rfl le_rfl rfl le_rfl⟩
  | lease =>
    cases h
    exact ⟨exchange_dropping worker .lease hbacked rfl rfl rfl rfl,
      .goes le_rfl le_rfl le_rfl rfl le_rfl⟩

lemma Stepped.stopRetrying {response : Option ℕ} (hheld : r.point.held = .responding response)
    (hstarted : r.point.hasStarted = true) (hattempted : r.point.attempted = true) :
    Stepped config s r s (r.stopRetrying response) := by
  cases response with
  | none => exact .finish hstarted
  | some worker => exact .goTo hheld.symm hstarted.symm hattempted.le (Bool.false_le _) rfl

lemma stepped_reserveRetry {response : Option ℕ}
    (hpoint : r.point = .reserving response ∨
      ∃ allowed used, r.point = .comparing response allowed used)
    (h : r.reserveRetry config s response choice = some (s', r')) : Stepped config s r s' r' := by
  obtain ⟨pool, retriesUsed, attemptsStarted, point⟩ := r
  obtain rfl | ⟨allowed, used, rfl⟩ : point = .reserving response ∨
    ∃ allowed used, point = .comparing response allowed used := hpoint
  · cases choice with
    | proceed =>
      obtain ⟨-, h⟩ := ite_none_right_eq_some.mp h
      cases h
      exact .stopRetrying rfl rfl rfl
    | load originalRequests used =>
      obtain ⟨⟨hretries, hloaded⟩, h⟩ := ite_none_right_eq_some.mp h
      cases h
      exact ⟨.goTo rfl rfl, .loads rfl hretries hloaded⟩
    | _ => cases h
  · cases choice with
    | proceed =>
      simp only [Request.reserveRetry] at h
      by_cases hdenied : allowed ≤ used
      · rw [if_pos hdenied] at h
        cases h
        exact .stopRetrying rfl rfl rfl
      · rw [if_neg hdenied, ite_none_right_eq_some] at h
        obtain ⟨hused, h⟩ := h
        cases h
        exact ⟨exchange_retryReserved rfl rfl, .reserves rfl (by omega)⟩
    | exchangeFails observed =>
      obtain ⟨-, h⟩ := ite_none_right_eq_some.mp h
      cases h
      exact ⟨.goTo rfl rfl, .observes rfl⟩
    | _ => cases h

lemma stepped_waitForReservedRetry (hpoint : r.point = .backingOff)
    (h : r.waitForReservedRetry s choice = some (s', r')) : Stepped config s r s' r' := by
  cases choice with
  | proceed =>
    cases h
    refine ⟨.fetchAdd (fun k => ?_) fun q => ?_, .grants hpoint⟩
    · cases k <;> simp [hpoint]
    · cases q <;> simp [hpoint]
  | fail | cancel =>
    cases h
    refine .finish ?_
    rw [hpoint]
    rfl
  | _ => cases h

lemma Onward.unwinds {held held' : Held} (hpoint : r.point = .unwinding held)
    (hle : held'.reservation ≤ held.reservation) :
    Onward config s r (r.goTo (.unwinding held')) := by
  refine .goes (Bool.le_true _) (Bool.le_true _) (Bool.false_le _) rfl ?_
  rw [hpoint]
  exact hle

/-- What is dropped at the end is given back. -/
theorem stepped_drop (hbacked : ∀ k, r.counts k ≤ s.counter k) {held held' : Held} {part : Part}
    (hpoint : r.point = .unwinding held) (h : held.drop s part = some (s', held')) :
    Stepped config s r s' (r.goTo (.unwinding held')) := by
  cases part with
  | outstanding | queued | executing =>
    obtain ⟨hpart, h⟩ := ite_none_right_eq_some.mp h
    cases h
    refine ⟨.fetchSub hbacked (fun k => ?_) fun q => ?_, .unwinds hpoint le_rfl⟩
    · cases k <;> simp [hpoint, hpart]
    · cases q <;> simp [hpoint]
  | reservation =>
    obtain ⟨hpart, h⟩ := ite_none_right_eq_some.mp h
    cases h
    refine ⟨.fetchSub hbacked (fun k => ?_) fun q => ?_, .unwinds hpoint (Bool.false_le _)⟩
    · cases k <;> simp [hpoint, hpart]
    · cases q <;> simp [hpoint]
  | outstandingPermit | queuePermit =>
    simp only [Held.drop] at h
    obtain ⟨⟨hpart, hcount⟩, h⟩ := dite_none_right_eq_some.mp h
    cases h
    refine ⟨.release (fun k => ?_) fun q => ?_, .unwinds hpoint le_rfl⟩
    · cases k <;> simp [hpoint]
    · cases q <;> simp [hpoint, hpart]
  | lease =>
    obtain ⟨worker, hpart, h⟩ := bind_eq_some_iff.mp h
    cases h
    refine ⟨.fetchSub hbacked (fun k => ?_) fun q => ?_, .unwinds hpoint le_rfl⟩
    · cases k <;> simp [hpoint, hpart]
    · cases q <;> simp [hpoint]
  | executionPermit =>
    obtain ⟨worker, hpart, h⟩ := bind_eq_some_iff.mp h
    obtain ⟨hcount, h⟩ := dite_none_left_eq_some.mp h
    cases h
    refine ⟨.release (fun k => ?_) fun q => ?_, .unwinds hpoint le_rfl⟩
    · cases k <;> simp [hpoint]
    · cases q <;> simp [hpoint, hpart]

/-- What every step of a request does. -/
theorem stepped_step (hbacked : ∀ k, r.counts k ≤ s.counter k)
    (h : r.step config s choice = some (s', r')) : Stepped config s r s' r' := by
  unfold Request.step at h
  cases hpoint : r.point with
  | arriving | admitting | admitted | started =>
    simp only [hpoint] at h
    exact stepped_tryAdmitRequest h
  | rejected => simp [hpoint] at h
  | choosing =>
    simp only [hpoint] at h
    cases choice with
    | choose worker =>
      obtain ⟨-, h⟩ := ite_none_right_eq_some.mp h
      cases h
      refine ⟨.fetchAdd (fun k => ?_) fun q => ?_, .goes ?_ (Bool.le_true _) (Bool.false_le _) rfl
        (Bool.false_le _)⟩
      · cases k <;> simp [hpoint]
      · cases q <;> simp [hpoint]
      · rw [hpoint]
        exact le_rfl
    | fail =>
      cases h
      refine .finish ?_
      rw [hpoint]
      rfl
    | _ => cases h
  | leased worker | enqueueing worker | queueing worker | queued worker | assigned worker
  | dequeueing worker | entering worker | executing worker =>
    simp only [hpoint] at h
    refine stepped_admitWorker hbacked ?_ h
    rw [hpoint]
    rfl
  | attempting worker =>
    simp only [hpoint] at h
    exact stepped_afterAttempt hpoint h
  | failed worker dropping retryable =>
    simp only [hpoint] at h
    exact stepped_afterFailure hbacked hpoint h
  | reserving response =>
    simp only [hpoint] at h
    exact stepped_reserveRetry (.inl hpoint) h
  | comparing response allowed used =>
    simp only [hpoint] at h
    exact stepped_reserveRetry (.inr ⟨allowed, used, hpoint⟩) h
  | yielding worker dropping =>
    simp only [hpoint] at h
    exact stepped_yieldResponse hbacked hpoint h
  | backingOff =>
    simp only [hpoint] at h
    exact stepped_waitForReservedRetry hpoint h
  | streaming worker =>
    simp only [hpoint] at h
    obtain ⟨-, h⟩ := ite_none_right_eq_some.mp h
    cases h
    refine .finish ?_
    rw [hpoint]
    rfl
  | unwinding held =>
    simp only [hpoint] at h
    cases choice with
    | drop part =>
      obtain ⟨⟨s₁, held'⟩, hdrop, h⟩ := bind_eq_some_iff.mp h
      cases h
      exact stepped_drop hbacked hpoint hdrop
    | _ => cases h

end Steps

/-! ## Every interleaving -/

section Runs

variable {config : RequestConfig} {ids : List String} {e : Ensemble Shared Request}

/-- The workers of a pool that is built are new. -/
theorem mem_fresh {s : Shared} {worker : ℕ} :
    worker ∈ (List.range ids.length).map (s.workers.length + ·) ↔
      s.workers.length ≤ worker ∧ worker < s.workers.length + ids.length := by
  simp only [List.mem_map, List.mem_range]
  constructor
  · rintro ⟨index, hlt, rfl⟩
    omega
  · rintro ⟨hle, hlt⟩
    exact ⟨worker - s.workers.length, by omega, by omega⟩

variable (config) in
/-- Every worker has the execution slots of the configuration, and no others exist. -/
def Staffed (s : Shared) : Prop :=
  ∀ worker, s.permits (.execution worker) =
    if worker < s.workers.length then config.workerConcurrencyLimit else 0

lemma Staffed.replacePool {s : Shared} (h : Staffed config s) (ids : List String) :
    Staffed config (s.replacePool config.workerConcurrencyLimit ids) := by
  intro worker
  have hworker := h worker
  simp only [Shared.replacePool, mem_fresh, length_append]
  by_cases hold : worker < s.workers.length
  · rw [if_pos hold] at hworker
    rw [if_neg (by omega), if_pos (by omega)]
    exact hworker
  · rw [if_neg hold] at hworker
    by_cases hnew : worker < s.workers.length + ids.length
    · rw [if_pos ⟨by omega, hnew⟩, if_pos hnew]
    · rw [if_neg (by omega), if_neg hnew]
      exact hworker

/-- What `AdmissionController::new` makes. -/
structure Opened (config : RequestConfig) (ids : List String) (s : Shared) : Prop where
  counter : ∀ k, s.counter k = 0
  available : ∀ p, s.available p = s.permits p
  outstanding : s.permits .outstanding =
    ids.length * config.workerConcurrencyLimit + config.queueCapacity
  queue : s.permits .queue = config.queueCapacity
  staffed : Staffed config s

lemma of_start {s : Shared} (h : Shared.start config ids = .ok s) : Opened config ids s := by
  simp only [Shared.start] at h
  obtain ⟨-, h⟩ := of_ite_eq h (by simp)
  obtain ⟨-, h⟩ := of_ite_eq h (by simp)
  obtain ⟨-, h⟩ := of_ite_eq h (by simp)
  cases h
  refine ⟨fun _ => rfl, fun _ => rfl, rfl, rfl, Staffed.replacePool (fun worker => ?_) ids⟩
  rfl

section

variable (h : (requestSystem config ids).Reachable e)
include h

/-- Every counter tells what the requests have in it. -/
theorem counter_eq_total (k : Counter) :
    e.shared.counter k = Ensemble.total (·.counts k) e.tasks := by
  refine Ensemble.counted (fun k s => s.counter k) (fun k r => r.counts k)
    (fun s hs => (of_start hs).counter) (fun k => ?_) (fun _ _ _ => rfl) ?_ h k
  · cases k <;> rfl
  · intro s r choice s' r' hstep hbacked
    exact (stepped_step hbacked hstep).exchange.counts

/-- A step of a request in an interleaving. -/
theorem stepped_of_reachable {r r' : Request} (hr : r ∈ e.tasks) {choice : Choice} {s : Shared}
    (hstep : r.step config e.shared choice = some (s, r')) : Stepped config e.shared r s r' := by
  refine stepped_step (fun k => ?_) hstep
  rw [counter_eq_total h k]
  exact Ensemble.le_total (·.counts k) hr

/-- The capacities are those of the start, and of the workers there are. -/
theorem capacities :
    e.shared.permits .outstanding =
        ids.length * config.workerConcurrencyLimit + config.queueCapacity ∧
      e.shared.permits .queue = config.queueCapacity ∧ Staffed config e.shared := by
  refine (Ensemble.each (I := fun s => s.permits .outstanding =
        ids.length * config.workerConcurrencyLimit + config.queueCapacity ∧
      s.permits .queue = config.queueCapacity ∧ Staffed config s) (J := fun _ _ => True)
    ?_ ?_ ?_ ?_ h).1
  · intro s hs
    have hopened := of_start hs
    exact ⟨hopened.outstanding, hopened.queue, hopened.staffed⟩
  · exact fun _ _ => trivial
  · rintro s event ⟨houtstanding, hqueue, hstaffed⟩
    exact ⟨⟨houtstanding, hqueue, hstaffed.replacePool event⟩, fun _ _ => trivial⟩
  · rintro e r choice s r' he hr hstep ⟨houtstanding, hqueue, hstaffed⟩ -
    have hexchange := (stepped_of_reachable he hr hstep).exchange
    refine ⟨?_, trivial, fun _ _ => trivial⟩
    unfold Staffed at hstaffed ⊢
    rw [hexchange.capacity, hexchange.workers]
    exact ⟨houtstanding, hqueue, hstaffed⟩

/-- What is left in a semaphore and what the requests have of it is all there is. -/
theorem available_add_total (p : Slots) :
    e.shared.available p + Ensemble.total (·.permits p) e.tasks = e.shared.permits p := by
  refine Ensemble.conserved (fun p s => s.available p) (fun p s => s.permits p)
    (fun p r => r.permits p)
    (fun s hs => (of_start hs).available) (fun p => ?_) ?_ ?_ h p
  · cases p <;> rfl
  · intro e event he hle p
    cases p with
    | outstanding | queue => rfl
    | execution worker =>
      have hstaffed := (capacities he).2.2 worker
      have hle := hle (.execution worker)
      simp only [requestRules, Shared.replacePool, mem_fresh]
      by_cases hnew : e.shared.workers.length ≤ worker ∧
          worker < e.shared.workers.length + event.length
      · rw [if_neg (by omega)] at hstaffed
        rw [if_pos hnew, if_pos hnew]
        omega
      · rw [if_neg hnew, if_neg hnew]
  · intro e r choice s r' he hr hstep p
    have hexchange := (stepped_of_reachable he hr hstep).exchange
    exact ⟨congrFun hexchange.capacity p, hexchange.permits p⟩

/-- No request is counted without a permit, so a counter is at most the capacity. -/
theorem counter_le_permits {k : Counter} {p : Slots}
    (hguarded : ∀ r : Request, r.counts k ≤ r.permits p) :
    e.shared.counter k ≤ e.shared.permits p := by
  have hcounter := counter_eq_total h k
  have havailable := available_add_total h p
  have hle : Ensemble.total (·.counts k) e.tasks ≤ Ensemble.total (·.permits p) e.tasks :=
    Ensemble.total_le_total fun r _ => hguarded r
  omega

end

lemma outstanding_guarded (r : Request) : r.counts .outstanding ≤ r.permits .outstanding := by
  have hguarded := r.point.held.outstanding_guarded
  simp only [Request.counts, Request.permits]
  cases hcount : r.point.held.outstanding with
  | false => exact Nat.zero_le _
  | true => rw [hguarded hcount]

lemma queued_guarded (r : Request) : r.counts .queued ≤ r.permits .queue := by
  have hguarded := r.point.held.queued_guarded
  simp only [Request.counts, Request.permits]
  cases hcount : r.point.held.queued with
  | false => exact Nat.zero_le _
  | true => rw [hguarded hcount]

/-- A request that is finished holds nothing. -/
theorem held_of_finished {r : Request} (h : r.finished = true) : r.point.held = {} := by
  rcases of_decide_eq_true h with hpoint | hpoint <;> rw [hpoint] <;> rfl

/-- A request that has ended can always give back something of what it still holds. -/
theorem Held.exists_drop (s : Shared) {held : Held} (h : held ≠ {}) :
    ∃ part next, held.drop s part = some next := by
  by_contra hnone
  have hdrop : ∀ part, held.drop s part = none := by
    intro part
    refine eq_none_iff_forall_ne_some.mpr fun next hnext => ?_
    exact hnone ⟨part, next, hnext⟩
  -- a part that cannot be dropped is not held, and a permit once its count is undone
  have houtstanding : held.outstanding = false := by simpa [Held.drop] using hdrop .outstanding
  have houtstandingPermit : held.outstandingPermit = false := by
    simpa [Held.drop, houtstanding] using hdrop .outstandingPermit
  have hlease : held.lease = none :=
    eq_none_iff_forall_ne_some.mpr (by simpa [Held.drop] using hdrop .lease)
  have hqueued : held.queued = false := by simpa [Held.drop] using hdrop .queued
  have hqueuePermit : held.queuePermit = false := by
    simpa [Held.drop, hqueued] using hdrop .queuePermit
  have hexecuting : held.executing = false := by simpa [Held.drop] using hdrop .executing
  have hexecutionPermit : held.executionPermit = none :=
    eq_none_iff_forall_ne_some.mpr
      (by simpa [Held.drop, hexecuting] using hdrop .executionPermit)
  have hreservation : held.reservation = false := by simpa [Held.drop] using hdrop .reservation
  refine h ?_
  cases held
  simp_all

/-- Where a request has a queue slot and an execution slot: from when the execution slot is given
to it until it has left the queue, or has been dropped there. -/
def Point.handsOver : Point → Bool
  | .assigned _ | .dequeueing _ | .unwinding _ => true
  | _ => false

lemma handsOver_of_slots {point : Point} (hqueue : point.held.queuePermit = true)
    (hexecution : point.held.executionPermit.isSome = true) : point.handsOver = true := by
  cases point with
  | assigned _ | dequeueing _ | unwinding _ => rfl
  | failed _ dropping _ | yielding _ dropping =>
    cases dropping <;> simp [Point.held, Held.dropping] at hqueue
  | reserving response | comparing response _ _ =>
    cases response <;> simp [Point.held, Held.responding] at hqueue
  | _ => simp [Point.held] at hqueue hexecution

/-- At every moment of every interleaving: the bounds hold, a request has a queue slot and an
execution slot together only while it leaves the queue, and none of them while it waits for a
retry; every counter is exact, so none has wrapped around, and no permit of a semaphore is lost or
made; a request that has ended can go on giving back what it holds; and when all requests have come
to their end nothing is held. -/
theorem admission_accounting (h : (requestSystem config ids).Reachable e) :
    e.shared.counter .outstanding ≤
        ids.length * config.workerConcurrencyLimit + config.queueCapacity ∧
    e.shared.counter .queued ≤ config.queueCapacity ∧
    (∀ worker, Ensemble.total (·.permits (.execution worker)) e.tasks ≤
      config.workerConcurrencyLimit) ∧
    (∀ r ∈ e.tasks,
      (r.point.held.queuePermit = true → r.point.held.executionPermit.isSome = true →
        r.point.handsOver = true ∧ r.point.held.executing = false) ∧
      (r.point = .backingOff →
        r.point.held.queuePermit = false ∧ r.point.held.executionPermit = none)) ∧
    (∀ k, e.shared.counter k = Ensemble.total (·.counts k) e.tasks) ∧
    (∀ p, e.shared.available p + Ensemble.total (·.permits p) e.tasks = e.shared.permits p) ∧
    (∀ r ∈ e.tasks, ∀ held, r.point = .unwinding held → held ≠ {} →
      ∃ part next, r.step config e.shared (.drop part) = some next) ∧
    ((∀ r ∈ e.tasks, r.finished = true) →
      e.shared.counter .outstanding = 0 ∧ e.shared.counter .queued = 0 ∧
      e.shared.counter .executing = 0 ∧ (∀ worker, e.shared.counter (.inFlight worker) = 0) ∧
      ∀ p, e.shared.available p = e.shared.permits p) := by
  obtain ⟨houtstanding, hqueue, hstaffed⟩ := capacities h
  refine ⟨?_, ?_, fun worker => ?_, fun r _ => ⟨fun hslot hpermit => ?_, fun hpoint => ?_⟩,
    counter_eq_total h, available_add_total h, fun r _ held hpoint hheld => ?_, fun hfinished => ?_⟩
  · rw [← houtstanding]
    exact counter_le_permits h outstanding_guarded
  · rw [← hqueue]
    exact counter_le_permits h queued_guarded
  · have havailable := available_add_total h (.execution worker)
    rw [hstaffed worker] at havailable
    by_cases hexists : worker < e.shared.workers.length
    · rw [if_pos hexists] at havailable
      omega
    · rw [if_neg hexists] at havailable
      omega
  · refine ⟨handsOver_of_slots hslot hpermit, ?_⟩
    by_contra hexecuting
    have hleft := r.point.held.queue_left (Bool.eq_true_of_not_eq_false hexecuting)
    exact absurd (hslot.symm.trans hleft) (by simp)
  · rw [hpoint]
    exact ⟨rfl, rfl⟩
  · obtain ⟨part, next, hdrop⟩ := Held.exists_drop e.shared hheld
    refine ⟨part, (next.1, r.goTo (.unwinding next.2)), ?_⟩
    simp [Request.step, hpoint, hdrop]
  · have hcounter : ∀ k, (∀ r : Request, r.point.held = {} → r.counts k = 0) →
        e.shared.counter k = 0 := by
      intro k hzero
      rw [counter_eq_total h k]
      exact Ensemble.total_eq_zero fun r hr => hzero r (held_of_finished (hfinished r hr))
    refine ⟨hcounter _ fun r hr => ?_, hcounter _ fun r hr => ?_, hcounter _ fun r hr => ?_,
      fun worker => hcounter _ fun r hr => ?_, fun p => ?_⟩
    · simp [Request.counts, hr]
    · simp [Request.counts, hr]
    · simp [Request.counts, hr]
    · simp [Request.counts, hr]
    · have hzero : Ensemble.total (·.permits p) e.tasks = 0 := by
        refine Ensemble.total_eq_zero fun r hr => ?_
        have hheld := held_of_finished (hfinished r hr)
        cases p <;> simp [Request.permits, hheld]
      have havailable := available_add_total h p
      omega

end Runs

/-! ## One worker with one execution slot -/

section Sample

def sampleRequests : RequestConfig where
  queueCapacity := 1
  workerConcurrencyLimit := 1
  maxRetries := 1
  retryBudgetPercent := 100

/-- A request goes to a worker and on until it has taken `steps` more steps. -/
def sampleRequest (index worker steps : ℕ) : List (Move Choice (List String)) :=
  .arrive :: List.replicate 4 (.run index .proceed) ++
    .run index (.choose worker) :: List.replicate steps (.run index .proceed)

/-- A request executes, the pool is built again with the same worker, and another one executes. -/
def rebuiltPool : List (Move Choice (List String)) :=
  sampleRequest 0 0 3 ++ .alter ["w"] :: sampleRequest 1 1 3

/-- A request executes and another one waits for the slot, which it is given when the first one
has dropped its execution guard. -/
def handOver : List (Move Choice (List String)) :=
  sampleRequest 0 0 3 ++ sampleRequest 1 0 3 ++
    [.run 0 (.attempted (.response false)), .run 0 .cancel, .run 0 (.drop .executing),
      .run 0 (.drop .executionPermit), .run 1 .proceed]

/-- The requests that execute on workers of this name. -/
def executingOnName (e : Ensemble Shared Request) (id : String) : ℕ :=
  e.tasks.countP fun r => r.point.held.executing &&
    r.point.held.executionPermit.any fun worker => e.shared.workers[worker]? == some id

/-- A request that has both slots. -/
def hasBothSlots (r : Request) : Bool :=
  r.point.held.queuePermit && r.point.held.executionPermit.isSome

/-- What a run of the sample reaches, if it can be carried out. -/
def sampleRun (moves : List (Move Choice (List String))) : Option (Ensemble Shared Request) := do
  let s ← (Shared.start sampleRequests ["w"]).toOption
  moves.foldlM (Ensemble.act (requestRules sampleRequests ["w"])) ⟨s, []⟩

lemma reachable_of_sampleRun {moves : List (Move Choice (List String))}
    {e : Ensemble Shared Request} (h : sampleRun moves = some e) :
    (requestSystem sampleRequests ["w"]).Reachable e := by
  unfold sampleRun at h
  obtain ⟨s, hs, hrun⟩ := bind_eq_some_iff.mp h
  refine ⟨⟨s, []⟩, ⟨?_, rfl⟩, ?_⟩
  · cases hstart : Shared.start sampleRequests ["w"] with
    | error message =>
      rw [hstart] at hs
      cases hs
    | ok s₀ =>
      rw [hstart] at hs
      obtain rfl := some.inj hs
      exact hstart
  · exact System.Steps.of_actions (fun e move e' hmove => ⟨move, hmove⟩) hrun

/-- The worker has one execution slot. After the pool was built again two requests execute on it,
and a request that leaves the queue has a queue slot and an execution slot. -/
theorem admission_limits_overlap :
    (∃ e, (requestSystem sampleRequests ["w"]).Reachable e ∧
      sampleRequests.workerConcurrencyLimit = 1 ∧ executingOnName e "w" = 2) ∧
    ∃ e, (requestSystem sampleRequests ["w"]).Reachable e ∧ e.tasks.any hasBothSlots = true := by
  refine ⟨?_, ?_⟩
  · have hrun : (sampleRun rebuiltPool).map (executingOnName · "w") = some 2 := by decide
    obtain ⟨e, he, htwo⟩ := map_eq_some_iff.mp hrun
    exact ⟨e, reachable_of_sampleRun he, rfl, htwo⟩
  · have hrun : (sampleRun handOver).map (·.tasks.any hasBothSlots) = some true := by decide
    obtain ⟨e, he, hboth⟩ := map_eq_some_iff.mp hrun
    exact ⟨e, reachable_of_sampleRun he, hboth⟩

/-- The request that is given the slot goes away, and both requests drop what they hold. -/
def allEnded : List (Move Choice (List String)) :=
  handOver ++ .run 1 .cancel ::
    ([.lease, .outstanding, .outstandingPermit].map fun part => .run 0 (.drop part)) ++
    [.queued, .queuePermit, .executionPermit, .lease, .outstanding, .outstandingPermit].map
      fun part => .run 1 (.drop part)

theorem admission_accounting_handOver :
    (∃ e, (requestSystem sampleRequests ["w"]).Reachable e ∧
      e.tasks.length = 2 ∧ e.shared.counter .outstanding ≤ 2 ∧ e.shared.counter .queued ≤ 1 ∧
      Ensemble.total (·.permits (.execution 0)) e.tasks ≤ 1) ∧
    ∃ e, (requestSystem sampleRequests ["w"]).Reachable e ∧
      e.tasks.length = 2 ∧ (∀ r ∈ e.tasks, r.finished = true) ∧
      e.shared.counter .outstanding = 0 ∧ ∀ p, e.shared.available p = e.shared.permits p := by
  constructor
  · have hrun : (sampleRun handOver).map (·.tasks.length) = some 2 := by decide
    obtain ⟨e, he, htwo⟩ := map_eq_some_iff.mp hrun
    have hreachable := reachable_of_sampleRun he
    obtain ⟨houtstanding, hqueued, hexecution, -⟩ := admission_accounting hreachable
    exact ⟨e, hreachable, htwo, houtstanding, hqueued, hexecution 0⟩
  · have hrun : (sampleRun allEnded).map
        (fun e => (e.tasks.length, e.tasks.all (·.finished))) = some (2, true) := by decide
    obtain ⟨e, he, hended⟩ := map_eq_some_iff.mp hrun
    obtain ⟨htwo, hall⟩ := Prod.mk.inj hended
    have hfinished := all_eq_true.mp hall
    have hreachable := reachable_of_sampleRun he
    obtain ⟨-, -, -, -, -, -, -, hnothing⟩ := admission_accounting hreachable
    obtain ⟨houtstanding, -, -, -, havailable⟩ := hnothing hfinished
    exact ⟨e, hreachable, htwo, hfinished, houtstanding, havailable⟩

end Sample

end InferLab.Gateway
