import InferLab.BatchQueue.Lifecycle

/-!
# Enqueueing a request twice

The idempotency index and the jobs name each other (`QueueData.Consistent`), so an enqueue finds
the job of its key whenever there is one. `enqueue_known` is what it then does: it changes
nothing, and is answered with that job if the request is the same.
-/

namespace InferLab.BatchQueue

open List Option

variable {Value : Type} {codec : Codec Value} {data : QueueData Value} {e : WalEvent Value}
  {inner inner' : StoreInner Value} {id : String} {job : JobRecord Value} {nowMs : ℕ}
  {kinds : WalEvent Value → Prop}

/-- The request passes the checks that do not depend on the store. -/
structure Acceptable (codec : Codec Value) (request : EnqueueRequest Value) : Prop where
  key : validateNonemptyLimited "idempotency_key" request.idempotencyKey
    maxIdempotencyKeyBytes = .ok ()
  attempts : 1 ≤ request.maxAttempts ∧ request.maxAttempts ≤ maxAttemptsLimit
  bytes : codec.payloadLength request.payload ≤ maxPayloadBytes

variable {request : EnqueueRequest Value}

/-- The request of a job was acceptable, so the same request is. -/
theorem JobRecord.Valid.acceptable (h : job.Valid codec)
    (hkey : request.idempotencyKey = job.idempotencyKey) (hpayload : request.payload = job.payload)
    (hmax : request.maxAttempts = job.maxAttempts) : Acceptable codec request where
  key := hkey ▸ h.key
  attempts := ⟨hmax ▸ h.positive, hmax ▸ h.limit⟩
  bytes := hpayload ▸ h.bytes

variable [BEq Value]

/-- An enqueue whose key a job has changes nothing. It is answered with that job if the request
is acceptable and equal to that of the job, and fails otherwise. -/
theorem enqueue_known (hconsistent : inner.data.Consistent codec)
    (hget : inner.data.jobs[id]? = some job) (hkey : request.idempotencyKey = job.idempotencyKey) :
    (enqueue codec inner request nowMs).inner = inner ∧
    ((enqueue codec inner request nowMs).result = .ok { created := false, job } ∨
      ∃ error, (enqueue codec inner request nowMs).result = .error error) ∧
    ((enqueue codec inner request nowMs).result = .ok { created := false, job } ↔
      Acceptable codec request ∧ (job.payload == request.payload) = true ∧
        job.maxAttempts = request.maxAttempts) := by
  have hindex := hconsistent.keyed id job hget
  rw [← hkey] at hindex
  have hfails : ∀ {reply : Reply Value (EnqueueResponse Value)} {error : QueueError},
      reply = inner.check (.error error) →
      ¬ (Acceptable codec request ∧ (job.payload == request.payload) = true ∧
        job.maxAttempts = request.maxAttempts) →
      reply.inner = inner ∧ (reply.result = .ok { created := false, job } ∨
        ∃ error, reply.result = .error error) ∧
      (reply.result = .ok { created := false, job } ↔ Acceptable codec request ∧
        (job.payload == request.payload) = true ∧ job.maxAttempts = request.maxAttempts) := by
    rintro reply error rfl hnot
    exact ⟨rfl, .inr ⟨error, rfl⟩, by simp [StoreInner.check, hnot]⟩
  unfold enqueue
  cases hvalid : validateNonemptyLimited "idempotency_key" request.idempotencyKey
      maxIdempotencyKeyBytes with
  | error error =>
    refine hfails rfl ?_
    rintro ⟨haccepted, -⟩
    rw [haccepted.key] at hvalid
    simp at hvalid
  | ok _ =>
    simp only [Reply.andThen, StoreInner.check]
    by_cases hlimit : ¬ (1 ≤ request.maxAttempts ∧ request.maxAttempts ≤ maxAttemptsLimit)
    · rw [if_pos hlimit]
      exact hfails rfl fun hequal => hlimit hequal.1.attempts
    rw [if_neg hlimit]
    by_cases hbytes : codec.payloadLength request.payload > maxPayloadBytes
    · rw [if_pos hbytes]
      exact hfails rfl fun hequal => absurd hequal.1.bytes (by omega)
    rw [if_neg hbytes]
    simp only [hindex, hget]
    by_cases hconflict : job.payload != request.payload ∨ job.maxAttempts ≠ request.maxAttempts
    · rw [if_pos hconflict]
      refine hfails rfl ?_
      rintro ⟨-, hpayload, hmax⟩
      rcases hconflict with hne | hne
      · simp [bne, hpayload] at hne
      · exact hne hmax
    · rw [if_neg hconflict]
      simp only [not_or, not_not] at hconflict
      refine ⟨rfl, .inl rfl, fun _ => ⟨⟨hvalid, not_not.mp hlimit, not_lt.mp hbytes⟩, ?_,
        hconflict.2⟩, fun _ => rfl⟩
      simpa [bne] using hconflict.1

/-! ## Where jobs come from -/

omit [BEq Value] in
/-- Only an event that enqueues makes a job. -/
theorem settle_lookup_none (hnew : data.jobs[id]? = none) (hother : e.isEnqueued = false) :
    (settle data e).jobs[id]? = none := by
  rcases settle_cases data e with happlies | hsame
  · generalize settle data e = data' at happlies ⊢
    cases happlies with
    | enqueued => simp [WalEvent.isEnqueued] at hother
    | claimed hget =>
      simp only [getElem?_insert_eq]
      rw [if_neg, hnew]
      rintro rfl
      simp [hnew] at hget
    | released hheld | acknowledged hheld | deadLettered hheld =>
      simp only [getElem?_insert_eq]
      rw [if_neg, hnew]
      rintro rfl
      have hfound := hheld.found
      simp [hnew] at hfound
  · rw [hsame, hnew]

omit [BEq Value] in
lemma CheckedRecords.lookup_none (h : CheckedRecords codec kinds inner inner')
    (hkinds : ∀ e, kinds e → e.isEnqueued = false) (hnew : inner.data.jobs[id]? = none) :
    inner'.data.jobs[id]? = none := by
  induction h with
  | refl => exact hnew
  | @tail a b _ hlast ih =>
    obtain ⟨e, -, hkind, rfl⟩ := hlast
    rcases record_data codec a e with hdata | hdata
    · rw [hdata, ih]
    · rw [hdata]
      exact settle_lookup_none ih (hkinds e hkind)

omit [BEq Value] in
lemma record_eq_error {error : QueueError} (h : (inner.record codec e).result = .error error) :
    (inner.record codec e).inner.data = inner.data := by
  unfold StoreInner.record at h ⊢
  rcases happend : inner.wal.append codec e with ⟨result, wal⟩
  cases result with
  | error error => rfl
  | ok _ =>
    simp only [happend] at h ⊢
    cases happly : applyEvent inner.data e with
    | error error => rfl
    | ok data => simp [happly] at h

/-- An enqueue that makes a job says so. -/
theorem enqueue_new_job (hnew : inner.data.jobs[id]? = none)
    (hget : (enqueue codec inner request nowMs).inner.data.jobs[id]? = some job) :
    ∃ response, (enqueue codec inner request nowMs).result = .ok response ∧
      response.created = true ∧ response.job = job := by
  have hsame : ∀ {data : QueueData Value}, data = inner.data → data.jobs[id]? ≠ some job := by
    rintro data rfl
    rw [hnew]
    simp
  unfold enqueue at hget ⊢
  cases hvalid : validateNonemptyLimited "idempotency_key" request.idempotencyKey
      maxIdempotencyKeyBytes with
  | error error =>
    rw [hvalid] at hget
    exact absurd hget (hsame rfl)
  | ok _ =>
    rw [hvalid] at hget
    simp only [Reply.andThen, StoreInner.check] at hget ⊢
    split at hget
    · exact absurd hget (hsame rfl)
    rename_i hlimit
    split at hget
    · exact absurd hget (hsame rfl)
    rename_i hbytes
    rw [if_neg hlimit, if_neg hbytes]
    cases hkey : inner.data.idempotencyIndex[request.idempotencyKey]? with
    | some existingId =>
      simp only [hkey] at hget
      split at hget
      · exact absurd hget (hsame rfl)
      · split at hget <;> exact absurd hget (hsame rfl)
    | none =>
      simp only [hkey] at hget ⊢
      generalize hevent : (WalEvent.enqueued (jobIdOf inner.data.nextJobNumber)
        request.idempotencyKey request.payload request.maxAttempts nowMs) = event at hget ⊢
      cases hrecord : (inner.record codec event).result with
      | error error =>
        simp only [hrecord] at hget
        exact absurd hget (hsame (record_eq_error hrecord))
      | ok _ =>
        subst hevent
        simp only [hrecord, enqueuedJob] at hget ⊢
        have happly := applyEvent_cases (StoreInner.record_eq_ok hrecord).1
        generalize (inner.record codec _).inner.data = data' at happly hget
        cases happly with
        | enqueued =>
          simp only [getElem?_insert_eq] at hget
          split_ifs at hget with hid
          · exact ⟨_, rfl, rfl, some.inj hget⟩
          · rw [hnew] at hget
            simp at hget

/-! ## Whole lives of a queue -/

variable {w : World Value} {path : String} {action : Action Value}

/-- The action enqueues a request with the key, and is answered with success. -/
def Enqueues (codec : Codec Value) (w : World Value) (action : Action Value) (key : String)
    (response : EnqueueResponse Value) : Prop :=
  ∃ request nowMs outcomes, action = .call (.enqueue request) nowMs outcomes ∧
    request.idempotencyKey = key ∧ w.answer codec action = some (.ok (.enqueued response))

/-- A new job is that of an enqueue that says so, or was being enqueued when the process
ended. -/
theorem World.Alive.new_job (h : w.Alive codec) (hnew : w.jobs[id]? = none)
    (hget : (w.step codec path action).jobs[id]? = some job) :
    (∃ response, Enqueues codec w action job.idempotencyKey response ∧
      response.created = true) ∨
    ∃ e, w.disk.unfinished = some e ∧ e.isEnqueued = true := by
  cases w with
  | running inner =>
    cases action with
    | call request nowMs outcomes =>
      have hcall : ((inner.withOutcomes outcomes).call codec nowMs request).inner.data.jobs[id]? =
        some job := hget
      have hnew' : (inner.withOutcomes outcomes).data.jobs[id]? = none := hnew
      have hrecords : ¬ ∀ e, request.Records e → e.isEnqueued = false := by
        intro hkinds
        have hchecked : CheckedRecords codec request.Records (inner.withOutcomes outcomes)
          ((inner.withOutcomes outcomes).call codec nowMs request).inner := call_checked request
        rw [hchecked.lookup_none hkinds hnew'] at hcall
        simp at hcall
      cases request with
      | enqueue request =>
        obtain ⟨response, hresult, hcreated, hjob⟩ := enqueue_new_job hnew' hcall
        have hconsistent : (inner.withOutcomes outcomes).data.Consistent codec :=
          h.2.history.consistent
        have hkey := (enqueue_eq_ok hconsistent hresult).1
        refine .inl ⟨response, ⟨request, nowMs, outcomes, rfl, hjob ▸ hkey.symm, ?_⟩, hcreated⟩
        show some (Except.map _ (enqueue codec (inner.withOutcomes outcomes) request nowMs).result)
          = _
        rw [hresult]
        rfl
      | _ => exact (hrecords fun _ hkind => hkind).elim
    | stop =>
      rw [World.step, h.2.jobs_stopped] at hget
      have hnew' : inner.data.jobs[id]? = none := hnew
      simp [hnew'] at hget
    | reopen =>
      have hget' : inner.data.jobs[id]? = some job := hget
      have hnew' : inner.data.jobs[id]? = none := hnew
      simp [hnew'] at hget'
  | stopped disk =>
    cases action with
    | call request nowMs outcomes =>
      rw [World.step] at hget
      · simp [hnew] at hget
      all_goals simp
    | stop =>
      rw [World.step] at hget
      · simp [hnew] at hget
      all_goals simp
    | reopen =>
      obtain ⟨data, halive⟩ := h
      rw [halive.jobs_stopped] at hnew
      rcases (halive.reopen path).2 with hsame | ⟨e, he, hsettled⟩
      · rw [hsame, hnew] at hget
        simp at hget
      · refine .inr ⟨e, he, ?_⟩
        by_contra hother
        rw [hsettled, settle_lookup_none hnew (by simpa using hother)] at hget
        simp at hget

/-- Where no enqueue was interrupted before the last step, every job has been announced as
created. -/
theorem created_of_job {actions : List (Action Value)}
    (hfinished : ∀ before, before <+: actions → before ≠ actions →
      ∀ e, (World.after codec path before).disk.unfinished = some e → e.isEnqueued = false)
    (hget : (World.after codec path actions).jobs[id]? = some job) :
    ∃ before action later response, actions = before ++ action :: later ∧
      Enqueues codec (World.after codec path before) action job.idempotencyKey response ∧
      response.created = true := by
  induction actions using List.reverseRecOn generalizing job with
  | nil => simp [World.after, World.start, World.jobs, settleAll, QueueData.start] at hget
  | append_singleton actions action ih =>
    have hfinished' : ∀ before, before <+: actions → ∀ e,
        (World.after codec path before).disk.unfinished = some e → e.isEnqueued = false := by
      refine fun before hinitial => hfinished before (hinitial.trans (prefix_append _ _)) ?_
      rintro rfl
      simpa using hinitial.length_le
    have halive := World.alive_after codec path actions
    cases hbefore : (World.after codec path actions).jobs[id]? with
    | some job' =>
      obtain ⟨before, action', later, response, rfl, henqueues, hcreated⟩ :=
        ih (fun before hinitial _ => hfinished' before hinitial) hbefore
      obtain ⟨job'', hget'', hcontinues⟩ :=
        jobsKept_after codec path (before ++ action' :: later) [action] id job' hbefore
      obtain rfl := some.inj (hget.symm.trans hget'')
      rw [← hcontinues.idempotencyKey] at henqueues
      exact ⟨before, action', later ++ [action], response, by simp, henqueues, hcreated⟩
    | none =>
      rw [World.after_concat] at hget
      rcases halive.new_job hbefore hget with ⟨response, henqueues, hcreated⟩ | ⟨e, he, hkind⟩
      · exact ⟨actions, action, [], response, rfl, henqueues, hcreated⟩
      · rw [hfinished' actions prefix_rfl e he] at hkind
        simp at hkind

variable {response : EnqueueResponse Value}

lemma Enqueues.answered {key : String} (h : Enqueues codec w action key response)
    (halive : w.Alive codec) (path : String) :
    (w.step codec path action).jobs[response.job.id]? = some response.job ∧
      response.job.idempotencyKey = key := by
  obtain ⟨request, nowMs, outcomes, rfl, rfl, hanswer⟩ := h
  obtain ⟨hkey, -, -, hget⟩ := enqueue_answered path halive hanswer
  exact ⟨hget, hkey⟩

/-- An enqueue with the key of a job is answered with that job. -/
theorem Enqueues.known {key : String} (h : Enqueues codec w action key response)
    (halive : w.Alive codec) (hget : w.jobs[id]? = some job) (hkey : job.idempotencyKey = key) :
    response = { created := false, job } := by
  obtain ⟨request, nowMs, outcomes, rfl, rfl, hanswer⟩ := h
  cases w with
  | stopped disk => simp [World.answer] at hanswer
  | running inner =>
    obtain ⟨answer, hresult, heq⟩ := Reply.map_eq_ok (some.inj hanswer)
    obtain rfl : answer = response := by simpa using heq
    have hconsistent : (inner.withOutcomes outcomes).data.Consistent codec :=
      halive.2.history.consistent
    obtain ⟨-, hknown | ⟨error, herror⟩, -⟩ := enqueue_known hconsistent hget hkey.symm
    · exact Except.ok.inj (hresult.symm.trans hknown)
    · rw [herror] at hresult
      simp at hresult

/-- The job of an enqueue that was answered is there from then on. -/
theorem Enqueues.job_after {before : List (Action Value)} {key : String}
    (h : Enqueues codec (World.after codec path before) action key response)
    (later : List (Action Value)) :
    ∃ job, (World.after codec path (before ++ action :: later)).jobs[response.job.id]? = some job ∧
      job.idempotencyKey = key ∧ response.job.Continues job := by
  obtain ⟨hget, hkey⟩ := h.answered (World.alive_after codec path before) path
  rw [← World.after_concat] at hget
  obtain ⟨job, hjob, hcontinues⟩ := jobsKept_after codec path _ later _ _ hget
  rw [append_assoc, singleton_append] at hjob
  exact ⟨job, hjob, hcontinues.idempotencyKey.trans hkey, hcontinues⟩

/-- Once there is a job, the enqueues with its key are answered with it, and as not created. -/
theorem Enqueues.known_after {before later : List (Action Value)}
    (hget : (World.after codec path before).jobs[id]? = some job)
    (h : Enqueues codec (World.after codec path (before ++ later)) action job.idempotencyKey
      response) : response.job.id = id ∧ response.created = false := by
  obtain ⟨data, hdata, hjobs⟩ := (World.alive_after codec path before).exists_data
  have hid := hdata.history.consistent.named id job (hjobs ▸ hget)
  obtain ⟨job', hget', hcontinues⟩ := jobsKept_after codec path before later _ _ hget
  rw [h.known (World.alive_after codec path _) hget' hcontinues.idempotencyKey]
  exact ⟨hcontinues.id.trans hid, rfl⟩

/-- The record of an enqueue that is in the file as a whole is a job when the queue is opened again,
whether or not the enqueue was answered. -/
theorem job_of_record {key : String} {payload : Value} {maxAttempts atMs : ℕ}
    (hfile : w.disk.file = codec.bytes
      (w.disk.appended ++ [.enqueued id key payload maxAttempts atMs]))
    (hopen : (w.step codec path .stop).step codec path .reopen = .running inner) :
    ∃ job, inner.data.jobs[id]? = some job ∧ job.idempotencyKey = key := by
  have hstop : w.step codec path .stop = .stopped w.disk := by cases w <;> rfl
  have hholds : codec.Holds w.disk.file _ [] := ⟨by simpa using hfile, by simp⟩
  rw [hstop] at hopen
  simp only [World.step, openStore, openWal_eq codec hholds path] at hopen
  cases hreplay : replayEvents (.start (decide (([] : List UInt8) ≠ [])).toNat)
      (w.disk.appended ++ [.enqueued id key payload maxAttempts atMs]) with
  | error error =>
    rw [hreplay] at hopen
    cases hopen
  | ok data =>
    obtain ⟨earlier, -, hlast⟩ := replayEvents_of_append hreplay
    obtain ⟨data', happly, hnil⟩ := replayEvents_cons.mp hlast
    obtain rfl := Except.ok.inj hnil
    simp only [hreplay, World.running.injEq] at hopen
    obtain rfl := hopen
    cases applyEvent_cases happly with
    | enqueued => exact ⟨_, Std.TreeMap.getElem?_insert_self, rfl⟩

/-- Through all calls, failed writes, crashes and restarts: a key has one job. Every enqueue with
the key that is answered names that job, and only the first one may say that it was created; one
does, unless an enqueue was interrupted. Once the job is there, however it came to be, no enqueue
says that it was created; so it is after a restart with the whole record of an enqueue that was not
answered. An enqueue with a key that is known changes nothing: it succeeds with the job of the key
if its request is acceptable and equal to that of the job, as the same request is, and fails
otherwise. -/
theorem enqueue_idempotency [ReflBEq Value] (codec : Codec Value) (path : String) :
    (∀ actions (id id' : String) (job job' : JobRecord Value),
      (World.after codec path actions).jobs[id]? = some job →
      (World.after codec path actions).jobs[id']? = some job' →
      job.idempotencyKey = job'.idempotencyKey → id = id') ∧
    (∀ before action later key response,
      Enqueues codec (World.after codec path before) action key response →
      ∃ job, (World.after codec path (before ++ action :: later)).jobs[response.job.id]? =
          some job ∧
        job.idempotencyKey = key ∧ job.payload = response.job.payload ∧
        job.maxAttempts = response.job.maxAttempts) ∧
    (∀ before action between action' key response response',
      Enqueues codec (World.after codec path before) action key response →
      Enqueues codec (World.after codec path (before ++ action :: between)) action' key response' →
      response'.job.id = response.job.id ∧ response'.created = false) ∧
    (∀ actions action key response,
      (∀ before, before <+: actions → ∀ e,
        (World.after codec path before).disk.unfinished = some e → e.isEnqueued = false) →
      Enqueues codec (World.after codec path actions) action key response →
      ∃ before action' later response', actions ++ [action] = before ++ action' :: later ∧
        Enqueues codec (World.after codec path before) action' key response' ∧
        response'.created = true) ∧
    (∀ before later (id : String) job action response,
      (World.after codec path before).jobs[id]? = some job →
      Enqueues codec (World.after codec path (before ++ later)) action job.idempotencyKey response →
      response.job.id = id ∧ response.created = false) ∧
    (∀ actions later (id : String) key payload maxAttempts atMs inner action response,
      (World.after codec path actions).disk.file = codec.bytes
        ((World.after codec path actions).disk.appended ++
          [.enqueued id key payload maxAttempts atMs]) →
      World.after codec path (actions ++ [.stop, .reopen]) = .running inner →
      Enqueues codec (World.after codec path (actions ++ [.stop, .reopen] ++ later)) action key
        response →
      response.job.id = id ∧ response.created = false) ∧
    ∀ actions inner (id : String) job request nowMs outcomes,
      World.after codec path actions = .running inner → inner.data.jobs[id]? = some job →
      request.idempotencyKey = job.idempotencyKey →
      let reply := enqueue codec (inner.withOutcomes outcomes) request nowMs
      reply.inner = inner.withOutcomes outcomes ∧
      (reply.result = .ok { created := false, job } ∨ ∃ error, reply.result = .error error) ∧
      (reply.result = .ok { created := false, job } ↔ Acceptable codec request ∧
        (job.payload == request.payload) = true ∧ job.maxAttempts = request.maxAttempts) ∧
      (request.payload = job.payload → request.maxAttempts = job.maxAttempts →
        reply.result = .ok { created := false, job }) := by
  refine ⟨?_, ?_, ?_, ?_, ?_, ?_, ?_⟩
  · intro actions id id' job job' hget hget' hkey
    obtain ⟨data, hdata, hjobs⟩ := (World.alive_after codec path actions).exists_data
    rw [hjobs] at hget hget'
    have hindex := hdata.history.consistent.keyed id job hget
    rw [hkey, hdata.history.consistent.keyed id' job' hget'] at hindex
    exact (some.inj hindex).symm
  · intro before action later key response henqueues
    obtain ⟨job, hget, hkey, hcontinues⟩ := henqueues.job_after later
    exact ⟨job, hget, hkey, hcontinues.payload, hcontinues.maxAttempts⟩
  · intro before action between action' key response response' henqueues henqueues'
    obtain ⟨job, hget, hkey, hcontinues⟩ := henqueues.job_after between
    rw [henqueues'.known (World.alive_after codec path _) hget hkey]
    exact ⟨hcontinues.id, rfl⟩
  · intro actions action key response hfinished henqueues
    obtain ⟨job, hget, rfl, -⟩ := henqueues.job_after []
    -- the record of the job was written by an enqueue that was answered
    refine created_of_job (fun before hinitial hproper => ?_) hget
    exact hfinished before ((prefix_concat_iff.mp hinitial).resolve_left hproper)
  · intro before later id job action response hget henqueues
    exact henqueues.known_after hget
  · intro actions later id key payload maxAttempts atMs inner action response hfile hopen henqueues
    have hreopened : World.after codec path (actions ++ [.stop, .reopen]) =
        ((World.after codec path actions).step codec path .stop).step codec path .reopen := by
      rw [← World.after_concat, ← World.after_concat, append_assoc]
      rfl
    -- the record is replayed whether or not it was acknowledged
    obtain ⟨job, hget, rfl⟩ := job_of_record hfile (hreopened ▸ hopen)
    exact henqueues.known_after (hopen ▸ hget)
  · intro actions inner id job request nowMs outcomes hrunning hget hkey
    have hinner := World.alive_after codec path actions
    rw [hrunning] at hinner
    have hconsistent : (inner.withOutcomes outcomes).data.Consistent codec :=
      hinner.2.history.consistent
    have hknown : let reply := enqueue codec (inner.withOutcomes outcomes) request nowMs
      reply.inner = _ ∧ _ ∧ _ := enqueue_known hconsistent hget hkey
    obtain ⟨hsame, hresult, hiff⟩ := hknown
    refine ⟨hsame, hresult, hiff, fun hpayload hmax => hiff.mpr ⟨?_, ?_, hmax.symm⟩⟩
    · exact (hconsistent.valid id job hget).acceptable hkey hpayload hmax
    · rw [hpayload]
      exact beq_self_eq_true job.payload

def repeatedRequest : EnqueueRequest Unit := { idempotencyKey := "request-1", payload := () }

/-- The job of `repeatedRequest` as the first enqueue of a queue makes it. -/
def firstJob : JobRecord Unit :=
  { id := "batch-00000001", idempotencyKey := "request-1", payload := (), maxAttempts := 3,
    attempts := 0, status := .pending, activeClaim := none, createdAtMs := 100,
    updatedAtMs := 100, lastError := none }

/-- A request is enqueued, the process is restarted, and the request comes again. -/
theorem enqueue_idempotency_restarted :
    let enqueueAgain : Action Unit := .call (.enqueue repeatedRequest) 100 []
    Enqueues exampleCodec (World.after exampleCodec "events.wal" [.reopen]) enqueueAgain
      "request-1" { created := true, job := firstJob } ∧
    ∀ response, Enqueues exampleCodec
        (World.after exampleCodec "events.wal" [.reopen, enqueueAgain, .stop, .reopen])
        enqueueAgain "request-1" response →
      response.job.id = "batch-00000001" ∧ response.created = false := by
  have hfirst : Enqueues exampleCodec (World.after exampleCodec "events.wal" [.reopen])
      (.call (.enqueue repeatedRequest) 100 []) "request-1" { created := true, job := firstJob } :=
    ⟨repeatedRequest, 100, [], rfl, rfl, by decide +kernel⟩
  refine ⟨hfirst, fun response hsecond => ?_⟩
  exact (enqueue_idempotency exampleCodec "events.wal").2.2.1 [.reopen] _ [.stop, .reopen] _ _ _ _
    hfirst hsecond

/-! ## An enqueue that ends between the sync and the answer -/

/-- A log whose records can be applied is opened on what they leave. -/
theorem step_reopen {disk : Disk Value} {es : List (WalEvent Value)}
    (hfile : disk.file = codec.bytes es) (hreplay : replayEvents (.start 0) es = .ok data) :
    (World.stopped disk).step codec path .reopen =
      .running { wal := openedWal codec path es, data } := by
  have hholds : codec.Holds disk.file es [] := ⟨by simpa using hfile, by simp⟩
  simp only [World.step, openStore, openWal_eq codec hholds path]
  simp [hreplay]

/-- An enqueue whose append fails leaves the part of its record that was written. -/
theorem enqueue_cut (inner : StoreInner Value) (nowMs kept : ℕ) (atSync : Bool) (error : String)
    (haccept : Acceptable codec request)
    (hindex : inner.data.idempotencyIndex[request.idempotencyKey]? = none)
    (hclean : inner.wal.poisoned = none) :
    let reply := enqueue codec (inner.withOutcomes [.failed atSync kept error]) request nowMs
    (∃ error, reply.result = .error error) ∧ reply.inner.wal.disk.file = inner.wal.disk.file ++
      (codec.record (.enqueued (jobIdOf inner.data.nextJobNumber) request.idempotencyKey
        request.payload request.maxAttempts nowMs)).take kept := by
  have hbytes := not_lt.mpr haccept.bytes
  simp [enqueue, StoreInner.withOutcomes, haccept.key, haccept.attempts, hbytes, Reply.andThen,
    StoreInner.check, hindex, StoreInner.record, Wal.append, hclean, Disk.cut]

lemma answer_enqueue (inner : StoreInner Value) (request : EnqueueRequest Value) (nowMs : ℕ)
    (outcomes : List WriteOutcome) :
    (World.running inner).answer codec (.call (.enqueue request) nowMs outcomes) =
      some ((enqueue codec (inner.withOutcomes outcomes) request nowMs).result.map .enqueued) :=
  rfl

/-- What the first enqueue of `repeatedRequest` appends. -/
def firstEvent : WalEvent Unit := .enqueued "batch-00000001" "request-1" () 3 100

/-- The record of an enqueue reaches the disk, but the caller is told of a failed sync. After a
restart the job is there. -/
theorem enqueue_unanswered (codec : Codec Unit) (path : String)
    (haccept : Acceptable codec repeatedRequest) :
    let interrupted : Action Unit := .call (.enqueue repeatedRequest) 100
      [.failed true (codec.record firstEvent).length "input/output error"]
    (∃ error, (World.after codec path [.reopen]).answer codec interrupted = some (.error error)) ∧
    (World.after codec path [.reopen, interrupted, .stop, .reopen]).answer codec
        (.call (.enqueue repeatedRequest) 200 []) =
      some (.ok (.enqueued { created := false, job := firstJob })) := by
  intro interrupted
  let fresh : StoreInner Unit := { wal := openedWal codec path [], data := .start 0 }
  let reopened : StoreInner Unit :=
    { wal := openedWal codec path [firstEvent], data := settle (.start 0) firstEvent }
  let reply := enqueue codec (fresh.withOutcomes
    [.failed true (codec.record firstEvent).length "input/output error"]) repeatedRequest 100
  have hopen : World.after codec path [.reopen] = .running fresh := step_reopen rfl rfl
  have hcut := enqueue_cut fresh 100 (codec.record firstEvent).length true "input/output error"
    haccept rfl rfl
  obtain ⟨⟨error, herror⟩, hfile⟩ := hcut
  constructor
  · refine ⟨error, ?_⟩
    rw [hopen, answer_enqueue, herror]
    rfl
  · have hbytes : reply.inner.wal.disk.file = codec.bytes [firstEvent] := by
      have hid : jobIdOf (QueueData.start 0 : QueueData Unit).nextJobNumber = "batch-00000001" := by
        decide +kernel
      show (enqueue codec _ _ _).inner.wal.disk.file = _
      rw [hfile, hid]
      show [] ++ (codec.record firstEvent).take (codec.record firstEvent).length = _
      rw [take_length, nil_append, Framing.bytes, flatMap_singleton]
    have hafter : World.after codec path [.reopen, interrupted] = .running reply.inner := by
      rw [show [.reopen, interrupted] = [.reopen] ++ [interrupted] from rfl, World.after_concat,
        hopen]
      rfl
    have hreopen : World.after codec path [.reopen, interrupted, .stop, .reopen] =
        .running reopened := by
      rw [show [.reopen, interrupted, .stop, .reopen] = [.reopen, interrupted] ++ [.stop] ++
        [.reopen] from rfl, World.after_concat, World.after_concat, hafter]
      exact step_reopen hbytes rfl
    have hindex : (reopened.withOutcomes []).data.idempotencyIndex["request-1"]? =
        some "batch-00000001" := rfl
    have hjob : (reopened.withOutcomes []).data.jobs["batch-00000001"]? = some firstJob := rfl
    have hanswer : (enqueue codec (reopened.withOutcomes []) repeatedRequest 200).result =
        .ok { created := false, job := firstJob } := by
      have hkey := haccept.key
      have hbytes := not_lt.mpr haccept.bytes
      simp only [repeatedRequest] at hkey hbytes
      simp [enqueue, hindex, hjob, repeatedRequest, hkey, hbytes, Reply.andThen, StoreInner.check,
        firstJob, maxAttemptsLimit]
    rw [hreopen, answer_enqueue, hanswer]
    rfl

/-- Of the two enqueues of a run neither is told that it created the job. -/
theorem created_never_answered : ∃ kept error,
    let interrupted : Action Unit :=
      .call (.enqueue repeatedRequest) 100 [.failed true kept "input/output error"]
    (World.after exampleCodec "events.wal" [.reopen]).answer exampleCodec interrupted =
      some (.error error) ∧
    (World.after exampleCodec "events.wal" [.reopen, interrupted, .stop, .reopen]).answer
        exampleCodec (.call (.enqueue repeatedRequest) 200 []) =
      some (.ok (.enqueued { created := false, job := firstJob })) := by
  obtain ⟨⟨error, herror⟩, hagain⟩ :=
    enqueue_unanswered exampleCodec "events.wal" ⟨by decide, by decide, by decide⟩
  exact ⟨_, error, herror, hagain⟩

end InferLab.BatchQueue
