import InferLab.BatchQueue.Counters
import InferLab.BatchQueue.Idempotency

/-!
# The order of delivery

`claim` takes the first pending job in the order of the identifiers' texts. The jobs of a queue
are numbered in the order in which they were enqueued (`Numbered`), and the texts of the numbers
are in the order of the numbers as long as these have eight digits.
-/

namespace InferLab.BatchQueue

open List Option

open Std (TreeMap)

variable {Value : Type} {codec : Codec Value} {data data' : QueueData Value}
  {e : WalEvent Value} {es : List (WalEvent Value)} {inner : StoreInner Value}
  {id jobId : String} {job : JobRecord Value}

/-! ## Numbers and texts -/

/-- Identifiers with numbers of eight digits are ordered as the numbers. -/
theorem compare_jobIdOf {m n : ℕ} (hmn : m < n) (hn : n < 10 ^ 8) :
    compare (jobIdOf m) (jobIdOf n) = .lt := by
  have hlt : jobIdOf m < jobIdOf n := by
    rw [String.lt_iff_toList_lt]
    simp only [jobIdOf, String.toList_append, String.toList_ofList]
    exact append_left_lt (paddedDecimal_lt (by omega) hmn hn)
  show compareOfLessAndEq (jobIdOf m) (jobIdOf n) = .lt
  rw [compareOfLessAndEq, if_pos hlt]

/-- The jobs have the numbers before the next one. A queue that has used up its numbers has the
next one, too. -/
structure Numbered (data : QueueData Value) : Prop where
  positive : 1 ≤ data.nextJobNumber
  le_max : data.nextJobNumber ≤ u64Max
  present : ∀ n, 1 ≤ n → n < data.nextJobNumber → ∃ job, data.jobs[jobIdOf n]? = some job
  ids : ∀ (id : String) (job : JobRecord Value), data.jobs[id]? = some job →
    ∃ n, 1 ≤ n ∧ n ≤ data.nextJobNumber ∧ (n = data.nextJobNumber → n = u64Max) ∧ id = jobIdOf n

lemma numbered_start (tornTail : ℕ) : Numbered (.start tornTail : QueueData Value) where
  positive := by simp [QueueData.start]
  le_max := show 1 ≤ u64Max by decide
  present := by
    intro n hpos hlt
    simp only [QueueData.start] at hlt
    omega
  ids := by simp [QueueData.start]

/-- An event that puts another record in the place of a job keeps the numbers. -/
theorem Numbered.replace {job' : JobRecord Value} (h : Numbered data)
    (hget : data.jobs[jobId]? = some job) (hjobs : data'.jobs = data.jobs.insert jobId job')
    (hnext : data'.nextJobNumber = data.nextJobNumber) : Numbered data' where
  positive := hnext ▸ h.positive
  le_max := hnext ▸ h.le_max
  present := by
    intro n hpos hlt
    rw [hnext] at hlt
    rw [hjobs, getElem?_insert_eq]
    split_ifs with hid
    · exact ⟨job', rfl⟩
    · exact h.present n hpos hlt
  ids := by
    intro id job'' hget'
    rw [hjobs, getElem?_insert_eq] at hget'
    rw [hnext]
    split_ifs at hget' with hid
    · exact h.ids id job (hid ▸ hget)
    · exact h.ids id job'' hget'

/-- A job takes the next number, and the number after it is the next, if there is one. -/
theorem Numbered.enqueue {job' : JobRecord Value} (h : Numbered data)
    (hjobs : data'.jobs = data.jobs.insert (jobIdOf data.nextJobNumber) job')
    (hnext : data'.nextJobNumber = max data.nextJobNumber
      (increment (parseSequence (jobIdOf data.nextJobNumber) "batch-"))) : Numbered data' := by
  have hle := h.le_max
  have hpos := h.positive
  -- the counter saturates
  have hstep : data'.nextJobNumber = min (data.nextJobNumber + 1) u64Max := by
    rw [hnext, parseSequence_jobIdOf hle, increment, saturatingAdd]
    omega
  constructor
  case positive => omega
  case le_max => omega
  case present =>
    intro n hn hlt
    rw [hjobs, getElem?_insert_eq]
    split_ifs with hid
    · exact ⟨job', rfl⟩
    · have hne : n ≠ data.nextJobNumber := fun heq => hid (heq ▸ rfl)
      exact h.present n hn (by omega)
  case ids =>
    intro id job'' hget
    rw [hjobs, getElem?_insert_eq] at hget
    split_ifs at hget with hid
    · exact ⟨data.nextJobNumber, hpos, by omega, by omega, hid⟩
    · obtain ⟨n, hn, hbound, hlast, rfl⟩ := h.ids id job'' hget
      exact ⟨n, hn, by omega, by omega, rfl⟩

lemma Numbered.settle (h : Numbered data) (hpermitted : Permitted data e) :
    Numbered (settle data e) := by
  rcases settle_cases data e with happlies | hsame
  · generalize BatchQueue.settle data e = data' at happlies ⊢
    cases happlies with
    | enqueued =>
      obtain ⟨rfl, -⟩ := hpermitted
      exact h.enqueue rfl rfl
    | claimed hget => exact h.replace hget rfl rfl
    | released hheld | acknowledged hheld | deadLettered hheld =>
      exact h.replace hheld.found rfl rfl
  · rwa [hsame]

lemma History.numbered (h : History codec es data) : Numbered data := by
  induction h with
  | start tornTail => exact numbered_start tornTail
  | append _ hchecked ih => exact ih.settle hchecked.1

/-! ## The first pending job -/

section

variable (h : firstPending data = some jobId)
include h

lemma firstPending_split :
    ∃ before job after, data.jobs.toList = before ++ (jobId, job) :: after ∧
      job.status = .pending ∧ ∀ entry ∈ before, entry.2.status ≠ .pending := by
  obtain ⟨before, entry, after, hlist, hfound, hskipped⟩ := List.findSome?_eq_some_iff.mp h
  obtain ⟨found, job⟩ := entry
  by_cases hpending : job.status = .pending
  · obtain rfl : found = jobId := by simpa [hpending] using hfound
    refine ⟨before, job, after, hlist, hpending, ?_⟩
    intro entry hentry hother
    have := hskipped entry hentry
    simp [hother] at this
  · simp [hpending] at hfound

lemma firstPending_pending : ∃ job, data.jobs[jobId]? = some job ∧ job.status = .pending := by
  obtain ⟨before, job, after, hlist, hpending, -⟩ := firstPending_split h
  refine ⟨job, TreeMap.mem_toList_iff_getElem?_eq_some.mp ?_, hpending⟩
  rw [hlist]
  simp

/-- No pending job comes before the one that is found. -/
theorem firstPending_le (hget : data.jobs[id]? = some job) (hpending : job.status = .pending) :
    id = jobId ∨ compare jobId id = .lt := by
  obtain ⟨before, found, after, hlist, -, hskipped⟩ := firstPending_split h
  have hmem : (id, job) ∈ data.jobs.toList := TreeMap.mem_toList_iff_getElem?_eq_some.mpr hget
  have hordered := TreeMap.ordered_keys_toList (t := data.jobs)
  rw [hlist] at hmem hordered
  rcases mem_append.mp hmem with hbefore | hafter
  · exact absurd hpending (hskipped _ hbefore)
  · rcases mem_cons.mp hafter with heq | hrest
    · exact .inl (congrArg Prod.fst heq)
    · exact .inr ((pairwise_cons.mp (pairwise_append.mp hordered).2.1).1 _ hrest)

end

/-- A claim that is answered with a job has swept the store, found that job first among the
pending ones, and recorded the claim. -/
theorem claim_eq_some {request : ClaimRequest} {nowMs : ℕ} {response : ClaimResponse Value}
    (h : (claim codec inner request nowMs).result = .ok (some response)) :
    ∃ swept token deadline attempt, firstPending swept = some response.jobId ∧
      Applies swept (.claimed response.jobId request.consumerId token deadline attempt nowMs)
        (claim codec inner request nowMs).inner.data := by
  unfold claim at h ⊢
  obtain ⟨_, -, heq⟩ := andThen_eq_ok h
  rw [heq] at h ⊢
  clear heq
  simp only [StoreInner.check] at h ⊢
  split at h
  · simp at h
  rename_i htimeout
  rw [if_neg htimeout]
  obtain ⟨_, -, heq⟩ := andThen_eq_ok h
  rw [heq] at h ⊢
  clear heq
  generalize (refreshExpiredClaims codec inner nowMs).inner = swept at h ⊢
  unfold claimFirst at h ⊢
  cases hfirst : firstPending swept.data with
  | none => simp [hfirst, StoreInner.check] at h
  | some jobId =>
    simp only [hfirst] at h ⊢
    cases hget : swept.data.jobs[jobId]? with
    | none => simp [hget, StoreInner.check] at h
    | some job =>
      simp only [hget] at h ⊢
      unfold claimJob at h ⊢
      obtain ⟨_, hrecord, heq⟩ := andThen_eq_ok h
      rw [heq] at h ⊢
      clear heq
      have happlies := applyEvent_cases (StoreInner.record_eq_ok hrecord).1
      split at h
      · simp [StoreInner.check] at h
      · rename_i job' hget'
        simp only [StoreInner.check, Except.ok.injEq, some.injEq] at h
        subst h
        simp only [StoreInner.check]
        exact ⟨swept.data, _, _, _, hfirst, happlies⟩

/-- Of the pending jobs after a claim none comes before the claimed one. -/
theorem claim_le_pending {request : ClaimRequest} {nowMs : ℕ} {response : ClaimResponse Value}
    (h : (claim codec inner request nowMs).result = .ok (some response))
    (hget : (claim codec inner request nowMs).inner.data.jobs[id]? = some job)
    (hpending : job.status = .pending) : compare response.jobId id = .lt := by
  obtain ⟨swept, token, deadline, attempt, hfirst, happlies⟩ := claim_eq_some h
  generalize (claim codec inner request nowMs).inner.data = data at happlies hget
  cases happlies with
  | claimed hclaimed =>
    simp only [getElem?_insert_eq] at hget
    split_ifs at hget with hid
    · obtain rfl := some.inj hget
      simp at hpending
    · exact (firstPending_le hfirst hget hpending).resolve_left hid

/-! ## Calls whose records are synced -/

/-- A record that is synced and applies. -/
theorem record_synced (codec : Codec Value) (hclean : inner.wal.poisoned = none)
    (happly : applyEvent inner.data e = .ok data') :
    ∃ wal, (inner.withOutcomes []).record codec e =
        { result := .ok (), inner := { wal, data := data' } } ∧ wal.poisoned = none := by
  simp [StoreInner.record, Wal.append, StoreInner.withOutcomes, hclean, happly]

lemma enqueue_synced [BEq Value] {request : EnqueueRequest Value} {nowMs : ℕ}
    (haccept : Acceptable codec request) (hclean : inner.wal.poisoned = none)
    (hkey : inner.data.idempotencyIndex[request.idempotencyKey]? = none)
    (happly : applyEvent inner.data (.enqueued (jobIdOf inner.data.nextJobNumber)
      request.idempotencyKey request.payload request.maxAttempts nowMs) = .ok data') :
    ∃ wal, (enqueue codec (inner.withOutcomes []) request nowMs).inner = { wal, data := data' } ∧
      wal.poisoned = none := by
  have hkey' : (inner.withOutcomes []).data.idempotencyIndex[request.idempotencyKey]? = none :=
    hkey
  obtain ⟨wal, hrecord, hwal⟩ := record_synced codec hclean happly
  have hbytes := not_lt.mpr haccept.bytes
  refine ⟨wal, ?_, hwal⟩
  have hrecord' : (inner.withOutcomes []).record codec
      (.enqueued (jobIdOf (inner.withOutcomes []).data.nextJobNumber) request.idempotencyKey
        request.payload request.maxAttempts nowMs) =
      { result := .ok (), inner := { wal, data := data' } } := hrecord
  simp [enqueue, haccept.key, haccept.attempts, hbytes, Reply.andThen, StoreInner.check, hkey',
    hrecord', enqueuedJob]

lemma claim_synced (codec : Codec Value) (request : ClaimRequest) {nowMs : ℕ}
    (hconsumer : validateNonemptyLimited "consumer_id" request.consumerId 200 = .ok ())
    (htimeout : 1 ≤ request.visibilityTimeoutMs ∧
      request.visibilityTimeoutMs ≤ maxVisibilityTimeoutMs)
    (hclean : inner.wal.poisoned = none) (hlive : expiredClaims inner.data nowMs = [])
    (hfirst : firstPending inner.data = some id) (hget : inner.data.jobs[id]? = some job)
    (hpending : job.status = .pending) :
    ∃ wal data' response token attempt,
      claim codec (inner.withOutcomes []) request nowMs =
        { result := .ok (some response), inner := { wal, data := data' } } ∧
      wal.poisoned = none ∧ response.jobId = id ∧
      Applies inner.data (.claimed id request.consumerId token
        (saturatingAdd u64Max nowMs request.visibilityTimeoutMs) attempt nowMs) data' := by
  obtain ⟨data', job', happly, hjobs, -⟩ := applyEvent_claimed request.consumerId
    (claimTokenOf inner.data.nextClaimNumber)
    (saturatingAdd u64Max nowMs request.visibilityTimeoutMs) nowMs hget hpending rfl
  obtain ⟨wal, hrecord, hwal⟩ := record_synced codec hclean happly
  have hrecord' : (inner.withOutcomes []).record codec
      (.claimed id request.consumerId
        (claimTokenOf (inner.withOutcomes []).data.nextClaimNumber)
        (saturatingAdd u64Max nowMs request.visibilityTimeoutMs)
        (saturatingAdd u32Max job.attempts 1) nowMs) =
      { result := .ok (), inner := { wal, data := data' } } := hrecord
  have hlive' : expiredClaims (inner.withOutcomes []).data nowMs = [] := hlive
  have hfirst' : firstPending (inner.withOutcomes []).data = some id := hfirst
  have hget' : (inner.withOutcomes []).data.jobs[id]? = some job := hget
  have hclaimed : data'.jobs[id]? = some job' := by
    rw [hjobs]
    exact TreeMap.getElem?_insert_self
  let response : ClaimResponse Value :=
    { jobId := id, idempotencyKey := job'.idempotencyKey, payload := job'.payload
      attempt := saturatingAdd u32Max job.attempts 1, maxAttempts := job'.maxAttempts
      consumerId := request.consumerId, claimToken := claimTokenOf inner.data.nextClaimNumber
      visibilityDeadlineMs := saturatingAdd u64Max nowMs request.visibilityTimeoutMs }
  refine ⟨wal, data', response, _, _, ?_, hwal, rfl, applyEvent_cases happly⟩
  simp only [claim, StoreInner.check, hconsumer, Reply.andThen, htimeout, refreshExpiredClaims,
    hlive', expireAll, claimFirst, hfirst', hget', claimJob, hrecord', hclaimed]
  rfl

/-! ## Whole lives of a queue -/

variable [BEq Value] {path : String} {actions : List (Action Value)}

/-- The job `id` was enqueued before `jobId`: it was there when `jobId` was not. -/
def EnqueuedEarlier (codec : Codec Value) (path : String) (actions : List (Action Value))
    (id jobId : String) : Prop :=
  ∃ before, before <+: actions ∧ ((World.after codec path before).jobs[id]?).isSome = true ∧
    (World.after codec path before).jobs[jobId]? = none

/-- Jobs are numbered in the order in which they were enqueued. -/
theorem EnqueuedEarlier.lt {m n : ℕ}
    (h : EnqueuedEarlier codec path actions (jobIdOf m) (jobIdOf n)) (hn : 1 ≤ n) : m < n := by
  obtain ⟨before, -, hsome, hnone⟩ := h
  obtain ⟨data, halive, hjobs⟩ := (World.alive_after codec path before).exists_data
  rw [hjobs] at hsome hnone
  have hnumbered := halive.history.numbered
  obtain ⟨job, hget⟩ := isSome_iff_exists.mp hsome
  obtain ⟨m', -, hle, -, hm⟩ := hnumbered.ids _ job hget
  obtain rfl := jobIdOf_injective hm
  have hge : data.nextJobNumber ≤ n := by
    by_contra hlt
    obtain ⟨job', hget'⟩ := hnumbered.present n hn (by omega)
    simp [hnone] at hget'
  have hne : m ≠ n := by
    rintro rfl
    simp [hnone] at hget
  omega

/-- Of a queue with at most 99999999 jobs, `claim` gives out the oldest pending one: no job that
was enqueued earlier is pending after the call. -/
theorem claim_oldest_pending (codec : Codec Value) (path : String)
    (actions : List (Action Value)) (inner : StoreInner Value)
    (hrunning : World.after codec path actions = .running inner)
    (hfew : inner.data.nextJobNumber ≤ 10 ^ 8) (request : ClaimRequest) (nowMs : ℕ)
    (outcomes : List WriteOutcome) (response : ClaimResponse Value)
    (hclaim : (claim codec (inner.withOutcomes outcomes) request nowMs).result =
      .ok (some response)) (id : String) (job : JobRecord Value)
    (hearlier : EnqueuedEarlier codec path actions id response.jobId)
    (hget : (claim codec (inner.withOutcomes outcomes) request nowMs).inner.data.jobs[id]? =
      some job) : job.status ≠ .pending := by
  intro hpending
  have halive := World.alive_after codec path actions
  rw [hrunning] at halive
  have hnumbered := halive.2.history.numbered
  -- a claim makes no job, so every job after it has a number of at most eight digits
  have hnumber : ∀ (id : String) (job : JobRecord Value),
      (claim codec (inner.withOutcomes outcomes) request nowMs).inner.data.jobs[id]? =
        some job → ∃ n, 1 ≤ n ∧ n < 10 ^ 8 ∧ id = jobIdOf n := by
    intro id job hget
    have hrecords : CheckedRecords codec (Call.Records (.claim request : Call Value))
        (inner.withOutcomes outcomes)
        (claim codec (inner.withOutcomes outcomes) request nowMs).inner :=
      call_checked (.claim request)
    cases hbefore : inner.data.jobs[id]? with
    | none =>
      rw [hrecords.lookup_none (fun _ hkind => hkind) hbefore] at hget
      simp at hget
    | some job' =>
      obtain ⟨n, hn, hle, hlast, rfl⟩ := hnumbered.ids id job' hbefore
      have hmax : 10 ^ 8 < u64Max := by decide
      exact ⟨n, hn, by omega, rfl⟩
  obtain ⟨m, hm, hmlt, rfl⟩ := hnumber id job hget
  obtain ⟨n, hn, hnlt, hjobId⟩ : ∃ n, 1 ≤ n ∧ n < 10 ^ 8 ∧ response.jobId = jobIdOf n := by
    obtain ⟨swept, token, deadline, attempt, -, happlies⟩ := claim_eq_some hclaim
    generalize (claim codec (inner.withOutcomes outcomes) request nowMs).inner.data = data
      at happlies hnumber
    cases happlies with
    | claimed => exact hnumber response.jobId _ TreeMap.getElem?_insert_self
  rw [hjobId] at hearlier
  have hlt := compare_jobIdOf (hearlier.lt hn) hnlt
  have hgt := claim_le_pending hclaim hget hpending
  rw [hjobId] at hgt
  simp [Std.OrientedCmp.gt_of_lt hgt] at hlt

/-- Two jobs are enqueued, and the first one is claimed. -/
def claimedInTurn : List (Action Unit) :=
  [.reopen,
    .call (.enqueue { idempotencyKey := "request-1", payload := () }) 100 [],
    .call (.enqueue { idempotencyKey := "request-2", payload := () }) 110 [],
    .call (.claim { consumerId := "consumer-a" }) 120 []]

theorem claim_oldest_pending_claimedInTurn : ∃ inner response job,
    World.after exampleCodec "events.wal" claimedInTurn = .running inner ∧
    (claim exampleCodec (inner.withOutcomes []) { consumerId := "consumer-b" } 130).result =
      .ok (some response) ∧
    EnqueuedEarlier exampleCodec "events.wal" claimedInTurn "batch-00000001" response.jobId ∧
    (claim exampleCodec (inner.withOutcomes []) { consumerId := "consumer-b" }
      130).inner.data.jobs["batch-00000001"]? = some job ∧ job.status ≠ .pending := by
  let response : ClaimResponse Unit :=
    { jobId := "batch-00000002", idempotencyKey := "request-2", payload := (), attempt := 1
      maxAttempts := 3, consumerId := "consumer-b", claimToken := "claim-000000000002"
      visibilityDeadlineMs := 30130 }
  obtain ⟨inner, hstore, hfacts⟩ := map_eq_some_iff.mp
    (show (World.after exampleCodec "events.wal" claimedInTurn).store?.map (fun inner =>
        let reply := claim exampleCodec (inner.withOutcomes []) { consumerId := "consumer-b" } 130
        (inner.data.nextJobNumber, reply.result,
          reply.inner.data.jobs["batch-00000001"]?.isSome)) =
      some (3, .ok (some response), true) by decide +kernel)
  simp only [Prod.mk.injEq] at hfacts
  obtain ⟨hnext, hresult, hsome⟩ := hfacts
  obtain ⟨job, hget⟩ := isSome_iff_exists.mp hsome
  have hrunning := World.eq_running_of_store? hstore
  have hearlier : EnqueuedEarlier exampleCodec "events.wal" claimedInTurn "batch-00000001"
      "batch-00000002" :=
    ⟨claimedInTurn.take 2, take_prefix _ _, by decide +kernel, by decide +kernel⟩
  exact ⟨inner, response, job, hrunning, hresult, hearlier, hget,
    claim_oldest_pending exampleCodec "events.wal" claimedInTurn inner hrunning (by omega) _ 130 []
      response hresult "batch-00000001" job hearlier hget⟩

/-! ## The ninth digit -/

lemma trim_jobIdOf_ne_nil (k : ℕ) : trim (jobIdOf k) ≠ [] := by
  have hchars : (jobIdOf k).toList = 'b' :: ("atch-".toList ++ paddedDecimal 8 k) := by
    simp [jobIdOf]
  have hstart : ∀ cs, ('b' :: cs).dropWhile isWhiteSpace = 'b' :: cs := by
    intro cs
    rw [dropWhile_cons, if_neg (by decide)]
  unfold trim
  rw [hchars, hstart, reverse_cons, dropWhile_append]
  split
  · simp [hstart]
  · simp

lemma utf8Len_le (cs : List Char) : String.utf8Len cs ≤ 4 * cs.length := by
  induction cs with
  | nil => simp
  | cons c cs ih =>
    have := c.utf8Size_le_four
    simp only [String.utf8Len_cons, length_cons]
    omega

/-- The request that is enqueued as job `n`: the identifiers serve as keys, too. -/
def numberedRequest (n : ℕ) : EnqueueRequest Unit := { idempotencyKey := jobIdOf n, payload := () }

lemma acceptable_numberedRequest {n : ℕ} (hn : n < 10 ^ 9) :
    Acceptable exampleCodec (numberedRequest n) where
  key := by
    have hlength : (paddedDecimal 8 n).length ≤ 9 := by
      have hdigits : (Nat.toDigits 10 n).length ≤ 9 :=
        (Nat.length_toDigits_le_iff (by omega) (by omega)).mpr hn
      rw [paddedDecimal, length_append, length_replicate]
      omega
    have hbytes : (jobIdOf n).utf8ByteSize ≤ 200 := by
      have hle := utf8Len_le (paddedDecimal 8 n)
      have hstart : "batch-".utf8ByteSize = 6 := by decide
      rw [jobIdOf, String.utf8ByteSize_append, String.utf8ByteSize_ofList (paddedDecimal 8 n)]
      omega
    show validateNonemptyLimited _ (jobIdOf n) 200 = _
    rw [validateNonemptyLimited, if_neg (trim_jobIdOf_ne_nil n), if_neg (by omega)]
  attempts := show 1 ≤ 3 ∧ 3 ≤ maxAttemptsLimit by decide
  bytes := show 4 ≤ maxPayloadBytes by decide

/-- A store with `n` jobs, of which those in `waiting` are pending, and the others have leases
that end after time zero. -/
structure Waiting (n : ℕ) (waiting : List String) (inner : StoreInner Unit) : Prop where
  clean : inner.wal.poisoned = none
  numbered : Numbered inner.data
  next : inner.data.nextJobNumber = n + 1
  present : ∀ id ∈ waiting, ∃ job, inner.data.jobs[id]? = some job ∧ job.status = .pending ∧
    job.activeClaim = none
  others : ∀ (id : String) (job : JobRecord Unit), inner.data.jobs[id]? = some job →
    id ∉ waiting → job.status = .claimed ∧
      ∀ lease, job.activeClaim = some lease → 0 < lease.visibilityDeadlineMs
  keys : ∀ key id : String, inner.data.idempotencyIndex[key]? = some id →
    ∃ k ≤ n, key = jobIdOf k

variable {n : ℕ} {waiting : List String}

lemma Waiting.enqueue {inner : StoreInner Unit} (h : Waiting n waiting inner)
    (hn : n + 1 < 10 ^ 9) : Waiting (n + 1) (jobIdOf (n + 1) :: waiting)
      (enqueue exampleCodec (inner.withOutcomes []) (numberedRequest (n + 1)) 0).inner := by
  have hmax : 10 ^ 9 < u64Max := by decide
  have hnext := h.next
  have hkey : inner.data.idempotencyIndex[jobIdOf (n + 1)]? = none := by
    by_contra hsome
    obtain ⟨id, hget⟩ := ne_none_iff_exists'.mp hsome
    obtain ⟨k, hle, heq⟩ := h.keys _ id hget
    have := jobIdOf_injective heq
    omega
  have hnew : inner.data.jobs[jobIdOf (n + 1)]? = none := by
    by_contra hsome
    obtain ⟨job, hget⟩ := ne_none_iff_exists'.mp hsome
    obtain ⟨m, -, hle, hlast, heq⟩ := h.numbered.ids _ job hget
    have := jobIdOf_injective heq
    omega
  obtain ⟨data', job', happly, -⟩ := applyEvent_enqueued () 3 0 hnew hkey
  have hevent : applyEvent inner.data (.enqueued (jobIdOf inner.data.nextJobNumber)
      (jobIdOf (n + 1)) () 3 0) = .ok data' := by
    rw [hnext]
    exact happly
  obtain ⟨wal, hinner, hclean⟩ :=
    enqueue_synced (acceptable_numberedRequest hn) h.clean hkey hevent
  rw [hinner]
  have happlies := applyEvent_cases happly
  clear hevent happly hinner
  cases happlies with
  | enqueued =>
    constructor
    case clean => exact hclean
    case numbered => exact h.numbered.enqueue (by rw [hnext]) (by rw [hnext])
    case next =>
      show max inner.data.nextJobNumber (increment (parseSequence (jobIdOf (n + 1)) "batch-")) = _
      rw [hnext, parseSequence_jobIdOf (by omega), max_increment (by omega)]
    case present =>
      intro id hmem
      simp only [getElem?_insert_eq]
      split_ifs with hid
      · exact ⟨_, rfl, rfl, rfl⟩
      · exact h.present id ((mem_cons.mp hmem).resolve_left hid)
    case others =>
      intro id job hget hnot
      simp only [mem_cons, not_or] at hnot
      simp only [getElem?_insert_eq, if_neg hnot.1] at hget
      exact h.others id job hget hnot.2
    case keys =>
      intro key id hget
      simp only [getElem?_insert_eq] at hget
      split_ifs at hget with hid
      · exact ⟨n + 1, le_rfl, hid⟩
      · obtain ⟨k, hle, heq⟩ := h.keys key id hget
        exact ⟨k, by omega, heq⟩

/-- The pending job that comes first is claimed. -/
theorem Waiting.claim {inner : StoreInner Unit} (h : Waiting n waiting inner) (hmem : id ∈ waiting)
    (hfirst : ∀ other ∈ waiting, other = id ∨ compare id other = .lt) :
    ∃ response,
      (claim exampleCodec (inner.withOutcomes []) { consumerId := "consumer-a" } 0).result =
        .ok (some response) ∧
      response.jobId = id ∧
      Waiting n (waiting.filter (· ≠ id))
        (claim exampleCodec (inner.withOutcomes []) { consumerId := "consumer-a" } 0).inner := by
  have hlive : expiredClaims inner.data 0 = [] := by
    rw [expiredClaims, filterMap_eq_nil_iff]
    intro entry hentry
    obtain ⟨other, job⟩ := entry
    have hget : inner.data.jobs[other]? = some job :=
      TreeMap.mem_toList_iff_getElem?_eq_some.mp hentry
    by_cases hwaits : other ∈ waiting
    · obtain ⟨job', hget', -, hnone⟩ := h.present other hwaits
      obtain rfl := some.inj (hget.symm.trans hget')
      simp [hnone]
    · cases hlease : job.activeClaim with
      | none => simp [hlease]
      | some lease =>
        have := (h.others other job hget hwaits).2 lease hlease
        simp only [hlease, bind_some]
        rw [if_neg (by omega)]
  obtain ⟨job, hget, hpending, -⟩ := h.present id hmem
  have hfound : firstPending inner.data = some id := by
    cases hcase : firstPending inner.data with
    | none =>
      have := List.findSome?_eq_none_iff.mp hcase _
        (TreeMap.mem_toList_iff_getElem?_eq_some.mpr hget)
      simp [hpending] at this
    | some found =>
      obtain ⟨other, hother, hstatus⟩ := firstPending_pending hcase
      have hwaits : found ∈ waiting := by
        by_contra hnot
        simp [(h.others found other hother hnot).1] at hstatus
      rcases hfirst found hwaits with rfl | hlt
      · rfl
      · rcases firstPending_le hcase hget hpending with rfl | hgt
        · rfl
        · simp [Std.OrientedCmp.gt_of_lt hgt] at hlt
  obtain ⟨wal, data', response, token, attempt, hclaim, hclean, hjobId, happlies⟩ :=
    claim_synced exampleCodec { consumerId := "consumer-a" } (by decide) (by decide) h.clean
      hlive hfound hget hpending
  refine ⟨response, by rw [hclaim], hjobId, ?_⟩
  rw [hclaim]
  clear hclaim
  cases happlies with
  | claimed hjob =>
    constructor
    case clean => exact hclean
    case numbered => exact h.numbered.replace hget rfl rfl
    case next => exact h.next
    case present =>
      intro other hother
      obtain ⟨hwaits, hne⟩ := mem_filter.mp hother
      simp only [getElem?_insert_eq, if_neg (of_decide_eq_true hne)]
      exact h.present other hwaits
    case others =>
      intro other job' hget' hnot
      simp only [getElem?_insert_eq] at hget'
      split_ifs at hget' with hid
      · obtain rfl := some.inj hget'
        refine ⟨rfl, ?_⟩
        rintro lease ⟨⟩
        show 0 < saturatingAdd u64Max 0 30000
        decide
      · refine h.others other job' hget' ?_
        intro hwaits
        exact hnot (mem_filter.mpr ⟨hwaits, by simpa using hid⟩)
    case keys => exact h.keys

lemma step_enqueue (codec : Codec Value) (path : String)
    (inner : StoreInner Value) (request : EnqueueRequest Value) :
    (World.running inner).step codec path (.call (.enqueue request) 0 []) =
      .running (enqueue codec (inner.withOutcomes []) request 0).inner :=
  rfl

lemma step_claim (codec : Codec Value) (path : String)
    (inner : StoreInner Value) (request : ClaimRequest) :
    (World.running inner).step codec path (.call (.claim request) 0 []) =
      .running (claim codec (inner.withOutcomes []) request 0).inner :=
  rfl

lemma Waiting.after_enqueue {inner : StoreInner Unit} {actions : List (Action Unit)}
    (h : Waiting n waiting inner) (hn : n + 1 < 10 ^ 9)
    (hafter : World.after exampleCodec "events.wal" actions = .running inner) :
    ∃ inner', World.after exampleCodec "events.wal"
        (actions ++ [.call (.enqueue (numberedRequest (n + 1))) 0 []]) = .running inner' ∧
      Waiting (n + 1) (jobIdOf (n + 1) :: waiting) inner' := by
  refine ⟨_, ?_, h.enqueue hn⟩
  rw [World.after_concat, hafter, step_enqueue]

/-- Each job is claimed before the next one is enqueued. -/
theorem exists_waiting_nil (n : ℕ) (hn : n < 10 ^ 9) : ∃ actions inner,
    World.after exampleCodec "events.wal" actions = .running inner ∧ Waiting n [] inner := by
  induction n with
  | zero =>
    refine ⟨[.reopen], { wal := openedWal exampleCodec "events.wal" [], data := .start 0 },
      step_reopen rfl rfl, ?_⟩
    constructor
    case clean => rfl
    case numbered => exact numbered_start 0
    case next => rfl
    case present => simp
    case others => simp [QueueData.start]
    case keys => simp [QueueData.start]
  | succ n ih =>
    obtain ⟨actions, inner, hafter, hwaiting⟩ := ih (by omega)
    obtain ⟨inner', hafter', hqueued⟩ := hwaiting.after_enqueue hn hafter
    obtain ⟨response, -, -, hclaimed⟩ := hqueued.claim mem_cons_self (by simp)
    refine ⟨actions ++ [.call (.enqueue (numberedRequest (n + 1))) 0 []] ++
      [.call (.claim { consumerId := "consumer-a" }) 0 []], _, ?_, by simpa using hclaimed⟩
    rw [World.after_concat, hafter', step_claim]

/-- After 99999999 jobs the ninth digit comes: the job with number 100000000 is claimed while
the one that was enqueued before it is pending. -/
theorem claim_overtakes : ∃ actions inner response job,
    World.after exampleCodec "events.wal" actions = .running inner ∧
    (claim exampleCodec (inner.withOutcomes []) { consumerId := "consumer-a" } 0).result =
      .ok (some response) ∧
    EnqueuedEarlier exampleCodec "events.wal" actions "batch-99999999" response.jobId ∧
    (claim exampleCodec (inner.withOutcomes []) { consumerId := "consumer-a" }
      0).inner.data.jobs["batch-99999999"]? = some job ∧ job.status = .pending := by
  have hlast : jobIdOf (99999998 + 1) = "batch-99999999" := by decide +kernel
  have hnext : jobIdOf (99999998 + 1 + 1) = "batch-100000000" := by decide +kernel
  obtain ⟨actions, inner, hafter, hwaiting⟩ := exists_waiting_nil 99999998 (by omega)
  obtain ⟨inner₁, hafter₁, hone⟩ := hwaiting.after_enqueue (by omega) hafter
  obtain ⟨inner₂, hafter₂, htwo⟩ := hone.after_enqueue (by omega) hafter₁
  rw [hlast] at hone htwo
  rw [hnext] at htwo
  obtain ⟨response, hresult, hjobId, hclaimed⟩ :=
    htwo.claim mem_cons_self (by decide +kernel)
  obtain ⟨job, hget, hpending, -⟩ := hclaimed.present "batch-99999999" (by decide +kernel)
  refine ⟨_, inner₂, response, job, hafter₂, hresult, ?_, hget, hpending⟩
  refine ⟨_, prefix_append _ _, ?_, ?_⟩
  · rw [hafter₁]
    obtain ⟨job, hget, -⟩ := hone.present "batch-99999999" mem_cons_self
    exact isSome_iff_exists.mpr ⟨job, hget⟩
  · rw [hafter₁, hjobId]
    by_contra hsome
    obtain ⟨job, hget⟩ := ne_none_iff_exists'.mp hsome
    obtain ⟨m, -, hle, hlast, heq⟩ := hone.numbered.ids _ job hget
    rw [← hnext] at heq
    have hm := jobIdOf_injective heq
    have hcount := hone.next
    have hmax : 100000000 < u64Max := by decide
    omega

end InferLab.BatchQueue
