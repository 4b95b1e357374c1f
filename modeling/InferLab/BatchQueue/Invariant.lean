import InferLab.BatchQueue.Store
import InferLab.Lease

/-!
# What the store knows about its log

Every call changes the store by a sequence of records, and each record is `Permitted` by the
data it is made from. `Tracks` ties the data to the events of the log: the events are a lawful
history of leases, whose outstanding ones are the active claims of the jobs, and the two
sequence numbers count the jobs and the claims. `Tracks.apply` is the step: a permitted event
applies, and the ties are kept.
-/

namespace InferLab.BatchQueue

open Std (TreeMap)

variable {Value : Type}

/-! ## Sequence numbers -/

lemma parseSequence_jobIdOf {number : ℕ} (h : number ≤ u64Max) :
    parseSequence (jobIdOf number) "batch-" = number := by
  unfold parseSequence jobIdOf
  rw [stripStart?_append, Option.bind_some, parseU64?_paddedDecimal h]
  rfl

lemma parseSequence_claimTokenOf {number : ℕ} (h : number ≤ u64Max) :
    parseSequence (claimTokenOf number) "claim-" = number := by
  unfold parseSequence claimTokenOf
  rw [stripStart?_append, Option.bind_some, parseU64?_paddedDecimal h]
  rfl

lemma paddedDecimal_injective (width : ℕ) : Function.Injective (paddedDecimal width) := by
  intro m n heq
  rw [← ofDigitChars_paddedDecimal width m, heq, ofDigitChars_paddedDecimal]

lemma jobIdOf_injective : Function.Injective jobIdOf := by
  intro m n heq
  have hlist := congrArg String.toList heq
  simp only [jobIdOf, String.toList_append, String.toList_ofList] at hlist
  exact paddedDecimal_injective 8 (List.append_cancel_left hlist)

lemma claimTokenOf_injective : Function.Injective claimTokenOf := by
  intro m n heq
  have hlist := congrArg String.toList heq
  simp only [claimTokenOf, String.toList_append, String.toList_ofList] at hlist
  exact paddedDecimal_injective 12 (List.append_cancel_left hlist)

/-! ## The log as a history -/

/-- What an event does to the lease of its job. -/
def WalEvent.leaseEvent : WalEvent Value → Option (Lease.Event String String)
  | .enqueued .. => none
  | .claimed jobId _ claimToken .. => some (.grant jobId claimToken)
  | .released jobId claimToken .. => some (.finish jobId claimToken)
  | .acknowledged jobId claimToken _ => some (.finish jobId claimToken)
  | .deadLettered jobId claimToken .. => some (.finish jobId claimToken)

def WalEvent.isEnqueued : WalEvent Value → Bool
  | .enqueued .. => true
  | _ => false

def WalEvent.isClaimed : WalEvent Value → Bool
  | .claimed .. => true
  | _ => false

def leaseEvents (es : List (WalEvent Value)) : List (Lease.Event String String) :=
  es.filterMap (·.leaseEvent)

/-- How many jobs the events enqueue. -/
def jobCount (es : List (WalEvent Value)) : ℕ := es.countP (·.isEnqueued)

/-- How many claims the events make. -/
def claimCount (es : List (WalEvent Value)) : ℕ := es.countP (·.isClaimed)

/-- Fewer than `2 ^ 64 - 1` jobs and claims. -/
structure Bounded (es : List (WalEvent Value)) : Prop where
  jobs : jobCount es < u64Max
  claims : claimCount es < u64Max

instance (es : List (WalEvent Value)) : Decidable (Bounded es) :=
  decidable_of_iff (jobCount es < u64Max ∧ claimCount es < u64Max)
    ⟨fun h => ⟨h.1, h.2⟩, fun h => ⟨h.jobs, h.claims⟩⟩

lemma Bounded.sublist {es es' : List (WalEvent Value)} (h : Bounded es')
    (hsub : es.Sublist es') : Bounded es :=
  ⟨(hsub.countP_le).trans_lt h.jobs, (hsub.countP_le).trans_lt h.claims⟩

lemma leaseEvents_concat (es : List (WalEvent Value)) (e : WalEvent Value) :
    leaseEvents (es ++ [e]) = leaseEvents es ++ e.leaseEvent.toList := by
  unfold leaseEvents
  rw [List.filterMap_append]
  cases hlease : e.leaseEvent <;> simp [hlease]

lemma jobCount_concat (es : List (WalEvent Value)) (e : WalEvent Value) :
    jobCount (es ++ [e]) = jobCount es + if e.isEnqueued then 1 else 0 := by
  simp [jobCount, List.countP_append, List.countP_singleton]

lemma claimCount_concat (es : List (WalEvent Value)) (e : WalEvent Value) :
    claimCount (es ++ [e]) = claimCount es + if e.isClaimed then 1 else 0 := by
  simp [claimCount, List.countP_append, List.countP_singleton]

/-! ## What the calls record -/

/-- Job `jobId` has the active claim `claimToken`. -/
structure Held (data : QueueData Value) (jobId claimToken : String) (job : JobRecord Value)
    (lease : ClaimLease) : Prop where
  found : data.jobs[jobId]? = some job
  status : job.status = .claimed
  active : job.activeClaim = some lease
  token : lease.claimToken = claimToken

/-- What the code checks before it records an event. -/
def Permitted (data : QueueData Value) : WalEvent Value → Prop
  | .enqueued jobId idempotencyKey .. =>
    jobId = jobIdOf data.nextJobNumber ∧ data.idempotencyIndex[idempotencyKey]? = none
  | .claimed jobId _ claimToken _ attempt _ =>
    claimToken = claimTokenOf data.nextClaimNumber ∧
      ∃ job, data.jobs[jobId]? = some job ∧ job.status = .pending ∧
        attempt = saturatingAdd u32Max job.attempts 1
  | .released jobId claimToken .. => ∃ job lease, Held data jobId claimToken job lease
  | .acknowledged jobId claimToken _ => ∃ job lease, Held data jobId claimToken job lease
  | .deadLettered jobId claimToken .. => ∃ job lease, Held data jobId claimToken job lease

/-- The token of each job's active claim. -/
def leaseTable (data : QueueData Value) (jobId : String) : Option String :=
  (data.jobs[jobId]?.bind (·.activeClaim)).map (·.claimToken)

/-- The data is what the events `es` leave. -/
structure Tracks (es : List (WalEvent Value)) (data : QueueData Value) : Prop where
  lawful : Lease.Lawful (leaseEvents es)
  agrees : Lease.Agrees (leaseTable data) (leaseEvents es)
  status : ∀ (id : String) (job : JobRecord Value), data.jobs[id]? = some job →
    (job.status = .claimed ↔ job.activeClaim.isSome)
  nextJob : data.nextJobNumber = jobCount es + 1
  nextClaim : data.nextClaimNumber = claimCount es + 1
  jobs : ∀ (id : String) (job : JobRecord Value), data.jobs[id]? = some job →
    ∃ n ≤ jobCount es, id = jobIdOf n
  tokens : ∀ r t, .grant r t ∈ leaseEvents es → ∃ n ≤ claimCount es, t = claimTokenOf n

lemma tracks_start (tornTail : ℕ) : Tracks ([] : List (WalEvent Value)) (.start tornTail) where
  lawful := .nil
  agrees := Lease.agrees_nil
  status := by simp [QueueData.start]
  nextJob := rfl
  nextClaim := rfl
  jobs := by simp [QueueData.start]
  tokens := by simp [leaseEvents]

lemma getElem?_insert_eq {β : Type} (m : TreeMap String β) (k a : String) (v : β) :
    (m.insert k v)[a]? = if a = k then some v else m[a]? := by
  rw [TreeMap.getElem?_insert]
  by_cases heq : a = k
  · rw [if_pos heq, if_pos (by rw [heq]; exact Std.ReflCmp.compare_self)]
  · rw [if_neg heq, if_neg]
    intro hcmp
    exact heq (Std.LawfulEqCmp.eq_of_compare hcmp).symm

/-! ## A permitted event applies -/

variable {es : List (WalEvent Value)} {e : WalEvent Value} {data data' : QueueData Value}
  {jobId claimToken : String} {job job' : JobRecord Value} {lease : ClaimLease}

lemma leaseTable_insert (hjobs : data'.jobs = data.jobs.insert jobId job') :
    leaseTable data' = Function.update (leaseTable data) jobId
      (job'.activeClaim.map (·.claimToken)) := by
  funext id
  unfold leaseTable
  rw [hjobs, getElem?_insert_eq]
  by_cases hid : id = jobId
  · subst hid
    simp
  · rw [if_neg hid, Function.update_of_ne hid]

lemma leaseTable_of_lookup (h : data.jobs[jobId]? = some job) :
    leaseTable data jobId = job.activeClaim.map (·.claimToken) := by
  simp [leaseTable, h]

lemma Held.leaseTable_eq (h : Held data jobId claimToken job lease) :
    leaseTable data jobId = some claimToken := by
  rw [leaseTable_of_lookup h.found, h.active, Option.map_some, h.token]

lemma Held.transitionClaimedJob_eq (h : Held data jobId claimToken job lease) :
    transitionClaimedJob data jobId claimToken = .ok job := by
  unfold transitionClaimedJob
  simp [h.found, h.status, h.active, h.token]

lemma applyEvent_enqueued {idempotencyKey : String} (payload : Value) (maxAttempts atMs : ℕ)
    (hnew : data.jobs[jobId]? = none) (hkey : data.idempotencyIndex[idempotencyKey]? = none) :
    ∃ data' job', applyEvent data (.enqueued jobId idempotencyKey payload maxAttempts atMs) =
        .ok data' ∧
      data'.jobs = data.jobs.insert jobId job' ∧ job'.status = .pending ∧
      job'.activeClaim = none ∧
      data'.nextJobNumber = max data.nextJobNumber (increment (parseSequence jobId "batch-")) ∧
      data'.nextClaimNumber = data.nextClaimNumber := by
  rw [applyEvent, if_neg (by simp [TreeMap.contains_eq_isSome_getElem?, hnew]),
    if_neg (by simp [TreeMap.contains_eq_isSome_getElem?, hkey])]
  exact ⟨_, _, rfl, rfl, rfl, rfl, rfl, rfl⟩

lemma applyEvent_claimed (consumerId claimToken : String) (visibilityDeadlineMs atMs : ℕ)
    {attempt : ℕ} (hget : data.jobs[jobId]? = some job) (hpending : job.status = .pending)
    (hattempt : attempt = saturatingAdd u32Max job.attempts 1) :
    ∃ data' job', applyEvent data
        (.claimed jobId consumerId claimToken visibilityDeadlineMs attempt atMs) = .ok data' ∧
      data'.jobs = data.jobs.insert jobId job' ∧ job'.status = .claimed ∧
      job'.activeClaim = some { consumerId, claimToken, visibilityDeadlineMs } ∧
      data'.nextJobNumber = data.nextJobNumber ∧
      data'.nextClaimNumber =
        max data.nextClaimNumber (increment (parseSequence claimToken "claim-")) := by
  simp only [applyEvent, hget]
  rw [if_neg (by simp [hpending, hattempt])]
  exact ⟨_, _, rfl, rfl, rfl, rfl, rfl, rfl⟩

/-- The three events that end a claim differ in the status they leave, not in the lease. -/
theorem applyEvent_finish (hheld : Held data jobId claimToken job lease)
    (hlease : e.leaseEvent = some (.finish jobId claimToken)) :
    ∃ data' job', applyEvent data e = .ok data' ∧
      data'.jobs = data.jobs.insert jobId job' ∧ job'.status ≠ .claimed ∧
      job'.activeClaim = none ∧ data'.nextJobNumber = data.nextJobNumber ∧
      data'.nextClaimNumber = data.nextClaimNumber := by
  cases e with
  | enqueued => simp [WalEvent.leaseEvent] at hlease
  | claimed => simp [WalEvent.leaseEvent] at hlease
  | released | acknowledged | deadLettered =>
    obtain ⟨rfl, rfl⟩ : _ = jobId ∧ _ = claimToken := by
      simpa [WalEvent.leaseEvent] using hlease
    simp only [applyEvent, hheld.transitionClaimedJob_eq]
    exact ⟨_, _, rfl, rfl, by simp, rfl, rfl, rfl⟩

/-- The next job has an identifier that no job has. -/
theorem Tracks.lookup_next (h : Tracks es data) :
    data.jobs[jobIdOf data.nextJobNumber]? = none := by
  by_contra hsome
  obtain ⟨job, hget⟩ := Option.ne_none_iff_exists'.mp hsome
  obtain ⟨n, hle, heq⟩ := h.jobs _ job hget
  have := jobIdOf_injective heq
  rw [h.nextJob] at this
  omega

/-- The next claim has a token that no claim has. -/
theorem Tracks.token_fresh (h : Tracks es data) (r : String) :
    .grant r (claimTokenOf data.nextClaimNumber) ∉ leaseEvents es := by
  intro hgrant
  obtain ⟨n, hle, heq⟩ := h.tokens _ _ hgrant
  have := claimTokenOf_injective heq
  rw [h.nextClaim] at this
  omega

/-- An event that replaces one job keeps the ties, if it keeps them for that job. -/
theorem Tracks.insert (h : Tracks es data) (hjobs : data'.jobs = data.jobs.insert jobId job')
    (hstatus : job'.status = .claimed ↔ job'.activeClaim.isSome)
    (hnextJob : data'.nextJobNumber = jobCount (es ++ [e]) + 1)
    (hnextClaim : data'.nextClaimNumber = claimCount (es ++ [e]) + 1)
    (hid : ∃ n ≤ jobCount (es ++ [e]), jobId = jobIdOf n)
    (hlease : Lease.Lawful (leaseEvents (es ++ [e])) ∧
      Lease.Agrees (Function.update (leaseTable data) jobId
        (job'.activeClaim.map (·.claimToken))) (leaseEvents (es ++ [e])))
    (htoken : ∀ r t, e.leaseEvent = some (.grant r t) →
      ∃ n ≤ claimCount (es ++ [e]), t = claimTokenOf n) : Tracks (es ++ [e]) data' := by
  have hcount := jobCount_concat es e
  have hclaims := claimCount_concat es e
  constructor
  case lawful => exact hlease.1
  case agrees =>
    rw [leaseTable_insert hjobs]
    exact hlease.2
  case status =>
    intro id job hget
    rw [hjobs, getElem?_insert_eq] at hget
    by_cases heq : id = jobId
    · rw [if_pos heq] at hget
      obtain rfl := Option.some.inj hget
      exact hstatus
    · rw [if_neg heq] at hget
      exact h.status id job hget
  case nextJob => exact hnextJob
  case nextClaim => exact hnextClaim
  case jobs =>
    intro id job hget
    rw [hjobs, getElem?_insert_eq] at hget
    by_cases heq : id = jobId
    · exact heq ▸ hid
    · rw [if_neg heq] at hget
      obtain ⟨n, hle, hn⟩ := h.jobs id job hget
      exact ⟨n, by omega, hn⟩
  case tokens =>
    intro r t hgrant
    rw [leaseEvents_concat] at hgrant
    rcases List.mem_append.mp hgrant with hold | hlast
    · obtain ⟨n, hle, hn⟩ := h.tokens r t hold
      exact ⟨n, by omega, hn⟩
    · exact htoken r t (by simpa using hlast)

lemma max_increment {n : ℕ} (h : n < u64Max) : max n (increment n) = n + 1 := by
  unfold increment
  rw [saturatingAdd_of_le (by omega)]
  omega

section

variable (h : Tracks es data)
include h

lemma Tracks.enqueue {idempotencyKey : String} {payload : Value} {maxAttempts atMs : ℕ}
    (he : e = .enqueued jobId idempotencyKey payload maxAttempts atMs)
    (hid : jobId = jobIdOf data.nextJobNumber)
    (hkey : data.idempotencyIndex[idempotencyKey]? = none) (hb : Bounded (es ++ [e])) :
    ∃ data', applyEvent data e = .ok data' ∧ Tracks (es ++ [e]) data' := by
  have hnew : data.jobs[jobId]? = none := hid ▸ h.lookup_next
  obtain ⟨data', job', happly, hjobs, hpending, hnone, hnextJob, hnextClaim⟩ :=
    applyEvent_enqueued payload maxAttempts atMs hnew hkey
  have hcount : jobCount (es ++ [e]) = jobCount es + 1 := by
    rw [jobCount_concat, he]
    rfl
  have hlt := hb.jobs
  rw [hcount] at hlt
  refine ⟨data', he ▸ happly, h.insert hjobs (by simp [hpending, hnone]) ?_ ?_ ?_ ?_ ?_⟩
  · rw [hcount, hnextJob, hid, h.nextJob, parseSequence_jobIdOf hlt.le, max_increment hlt]
  · rw [hnextClaim, h.nextClaim, claimCount_concat, he]
    rfl
  · exact ⟨jobCount es + 1, hcount.ge, by rw [hid, h.nextJob]⟩
  · -- a new job has no lease, and an event that enqueues is not one of the history
    have hsame : Function.update (leaseTable data) jobId none = leaseTable data :=
      Function.update_eq_self_iff.mpr (by simp [leaseTable, hnew])
    rw [leaseEvents_concat, he, hnone, Option.map_none, hsame]
    simpa [WalEvent.leaseEvent] using ⟨h.lawful, h.agrees⟩
  · simp [he, WalEvent.leaseEvent]

lemma Tracks.claim {consumerId : String} {visibilityDeadlineMs attempt atMs : ℕ}
    (he : e = .claimed jobId consumerId claimToken visibilityDeadlineMs attempt atMs)
    (htoken : claimToken = claimTokenOf data.nextClaimNumber) (hget : data.jobs[jobId]? = some job)
    (hpending : job.status = .pending) (hattempt : attempt = saturatingAdd u32Max job.attempts 1)
    (hb : Bounded (es ++ [e])) :
    ∃ data', applyEvent data e = .ok data' ∧ Tracks (es ++ [e]) data' := by
  obtain ⟨data', job', happly, hjobs, hclaimed, hactive, hnextJob, hnextClaim⟩ :=
    applyEvent_claimed consumerId claimToken visibilityDeadlineMs atMs hget hpending hattempt
  have hclaims : claimCount (es ++ [e]) = claimCount es + 1 := by
    rw [claimCount_concat, he]
    rfl
  have hcount : jobCount (es ++ [e]) = jobCount es := by
    rw [jobCount_concat, he]
    rfl
  have hlt := hb.claims
  rw [hclaims] at hlt
  -- a pending job has no claim, and the token is the next one
  have hfree : leaseTable data jobId = none := by
    have hnone : job.activeClaim = none := by
      simpa [hpending] using h.status jobId job hget
    rw [leaseTable_of_lookup hget, hnone]
    rfl
  have hlease := h.agrees.grant h.lawful (htoken ▸ h.token_fresh) hfree
  refine ⟨data', he ▸ happly, h.insert hjobs (by simp [hclaimed, hactive]) ?_ ?_ ?_ ?_ ?_⟩
  · rw [hnextJob, h.nextJob, hcount]
  · rw [hclaims, hnextClaim, htoken, h.nextClaim, parseSequence_claimTokenOf hlt.le,
      max_increment hlt]
  · rw [hcount]
    exact h.jobs jobId job hget
  · rw [leaseEvents_concat, he, hactive]
    exact hlease
  · intro r t heq
    obtain ⟨-, rfl⟩ : jobId = r ∧ claimToken = t := by
      simpa [he, WalEvent.leaseEvent] using heq
    exact ⟨claimCount es + 1, hclaims.ge, by rw [htoken, h.nextClaim]⟩

lemma Tracks.finish (hheld : Held data jobId claimToken job lease)
    (hlease : e.leaseEvent = some (.finish jobId claimToken)) (henqueued : e.isEnqueued = false)
    (hclaimed : e.isClaimed = false) :
    ∃ data', applyEvent data e = .ok data' ∧ Tracks (es ++ [e]) data' := by
  obtain ⟨data', job', happly, hjobs, hstatus, hnone, hnextJob, hnextClaim⟩ :=
    applyEvent_finish hheld hlease
  have hcount : jobCount (es ++ [e]) = jobCount es := by simp [jobCount_concat, henqueued]
  have hclaims : claimCount (es ++ [e]) = claimCount es := by simp [claimCount_concat, hclaimed]
  refine ⟨data', happly, h.insert hjobs (by simp [hstatus, hnone]) ?_ ?_ ?_ ?_ ?_⟩
  · rw [hnextJob, h.nextJob, hcount]
  · rw [hnextClaim, h.nextClaim, hclaims]
  · rw [hcount]
    exact h.jobs jobId job hheld.found
  · rw [leaseEvents_concat, hlease, hnone]
    exact h.agrees.finish h.lawful hheld.leaseTable_eq
  · simp [hlease]

/-- An event that the code permits itself to record applies, and the ties are kept. -/
theorem Tracks.apply (hp : Permitted data e) (hb : Bounded (es ++ [e])) :
    ∃ data', applyEvent data e = .ok data' ∧ Tracks (es ++ [e]) data' := by
  cases e with
  | enqueued =>
    obtain ⟨hid, hkey⟩ := hp
    exact h.enqueue rfl hid hkey hb
  | claimed =>
    obtain ⟨htoken, job, hget, hpending, hattempt⟩ := hp
    exact h.claim rfl htoken hget hpending hattempt hb
  | released =>
    obtain ⟨job, lease, hheld⟩ := hp
    exact h.finish hheld rfl rfl rfl
  | acknowledged =>
    obtain ⟨job, lease, hheld⟩ := hp
    exact h.finish hheld rfl rfl rfl
  | deadLettered =>
    obtain ⟨job, lease, hheld⟩ := hp
    exact h.finish hheld rfl rfl rfl

/-- The active claims in memory are the outstanding ones of the log. -/
theorem Tracks.outstanding_iff (jobId claimToken : String) :
    Lease.Outstanding (leaseEvents es) jobId claimToken ↔
      ∃ job lease, Held data jobId claimToken job lease := by
  rw [← h.agrees]
  constructor
  · intro hsome
    obtain ⟨lease, hactive, htoken⟩ := Option.map_eq_some_iff.mp hsome
    obtain ⟨job, hget, hlease⟩ := Option.bind_eq_some_iff.mp hactive
    have hstatus := (h.status jobId job hget).mpr (by simp [hlease])
    exact ⟨job, lease, hget, hstatus, hlease, htoken⟩
  · rintro ⟨job, lease, hheld⟩
    exact hheld.leaseTable_eq

end

end InferLab.BatchQueue
