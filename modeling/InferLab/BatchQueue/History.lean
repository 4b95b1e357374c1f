import InferLab.BatchQueue.Effects

/-!
# The history of a queue

Every event of a log was checked against the data that the events before it leave: `History`.
This needs no bound on the number of jobs and claims. An event that does not apply, because
its job number is used up, is in the log but leaves the data as it is, so the data is that of
`settleAll`, whether or not the log opens again. `World.alive_after` has every state of a queue,
running or stopped, at the end of such a history.
-/

namespace InferLab.BatchQueue

open List

open Std (TreeMap)

variable {Value : Type} {codec : Codec Value} {data data' : QueueData Value}
  {e : WalEvent Value} {es es' : List (WalEvent Value)} {inner inner' : StoreInner Value}
  {disk : Disk Value}

/-! ## The data that a log leaves -/

def settleAll (start : QueueData Value) (es : List (WalEvent Value)) : QueueData Value :=
  es.foldl settle start

lemma settleAll_concat (start : QueueData Value) :
    settleAll start (es ++ [e]) = settle (settleAll start es) e := by
  simp [settleAll]

/-- A log that opens is read back as the data its events leave. -/
theorem settleAll_of_replayEvents {start : QueueData Value}
    (h : replayEvents start es = .ok data) : settleAll start es = data := by
  induction es generalizing start with
  | nil => exact Except.ok.inj h
  | cons e es ih =>
    obtain ⟨next, happly, hrest⟩ := replayEvents_cons.mp h
    rw [settleAll, foldl_cons, settle_of_ok happly]
    exact ih hrest

lemma settle_setTornTail (tornTail : ℕ) :
    settle (data.setTornTail tornTail) e = (settle data e).setTornTail tornTail := by
  cases happly : applyEvent data e with
  | ok data' => rw [settle_of_ok (applyEvent_setTornTail tornTail happly), settle_of_ok happly]
  | error error =>
    cases happly' : applyEvent (data.setTornTail tornTail) e with
    | error error' => simp [settle, happly, happly']
    | ok data' =>
      -- with the old counter again the event would apply to the old data
      have hback := applyEvent_setTornTail data.tornTailRecordsDiscarded happly'
      have hsame : (data.setTornTail tornTail).setTornTail data.tornTailRecordsDiscarded = data :=
        rfl
      rw [hsame, happly] at hback
      simp at hback

lemma settleAll_setTornTail {start : QueueData Value} (tornTail : ℕ) :
    settleAll (start.setTornTail tornTail) es = (settleAll start es).setTornTail tornTail := by
  induction es generalizing start with
  | nil => rfl
  | cons e es ih =>
    simp only [settleAll, foldl_cons, settle_setTornTail] at ih ⊢
    exact ih

lemma settle_jobsKept : JobsKept data.jobs (settle data e).jobs := by
  rcases settle_cases data e with happlies | hsame
  · exact happlies.jobsKept
  · rw [hsame]
    exact .refl

lemma QueueData.Consistent.settle (h : data.Consistent codec) (hdue : Due codec data e) :
    (settle data e).Consistent codec := by
  rcases settle_cases data e with happlies | hsame
  · exact happlies.consistent h hdue
  · rwa [hsame]

/-! ## Histories -/

/-- The data after the events were recorded one by one, each of them checked. -/
inductive History (codec : Codec Value) : List (WalEvent Value) → QueueData Value → Prop
  | start (tornTail : ℕ) : History codec [] (.start tornTail)
  | append {es : List (WalEvent Value)} {data : QueueData Value} {e : WalEvent Value}
      (history : History codec es data) (checked : Checked codec data e) :
      History codec (es ++ [e]) (settle data e)

lemma History.settled (h : History codec es data) :
    ∃ tornTail, data = settleAll (.start tornTail) es := by
  induction h with
  | start tornTail => exact ⟨tornTail, rfl⟩
  | append _ _ ih =>
    obtain ⟨tornTail, hsettled⟩ := ih
    exact ⟨tornTail, by rw [settleAll_concat, ← hsettled]⟩

lemma History.consistent (h : History codec es data) : data.Consistent codec := by
  induction h with
  | start tornTail => exact consistent_start tornTail
  | append _ hchecked ih => exact ih.settle hchecked.2

/-- No check reads the torn-tail counter. -/
theorem Checked.setTornTail (h : Checked codec data e) (tornTail : ℕ) :
    Checked codec (data.setTornTail tornTail) e := by
  obtain ⟨hpermitted, hdue⟩ := h
  cases e with
  | enqueued => exact ⟨hpermitted, hdue⟩
  | claimed => exact ⟨hpermitted, hdue⟩
  | released | acknowledged | deadLettered =>
    obtain ⟨job, lease, hheld⟩ := hpermitted
    exact ⟨⟨job, lease, hheld.found, hheld.status, hheld.active, hheld.token⟩, hdue⟩

lemma History.setTornTail (h : History codec es data) (tornTail : ℕ) :
    History codec es (data.setTornTail tornTail) := by
  induction h with
  | start => exact .start tornTail
  | append _ hchecked ih =>
    rw [← settle_setTornTail]
    exact .append ih (hchecked.setTornTail tornTail)

/-- Every event of a history was checked against what the events before it leave. -/
theorem History.checked_of_split (h : History codec es data) {before : List (WalEvent Value)}
    (hsplit : es = before ++ e :: es') :
    ∃ earlier, History codec before earlier ∧ Checked codec earlier e := by
  induction h generalizing es' with
  | start => simp at hsplit
  | @append es data last hhistory hchecked ih =>
    rcases eq_nil_or_concat' es' with rfl | ⟨es'', last', rfl⟩
    · obtain ⟨rfl, hlast⟩ := append_inj' hsplit rfl
      obtain rfl := singleton_inj.mp hlast
      exact ⟨data, hhistory, hchecked⟩
    · rw [← cons_append, ← append_assoc] at hsplit
      exact ih (append_inj' hsplit rfl).1

/-! ## The disk and the data -/

/-- The data is that of the log's history, the file holds the log, and an event whose append
failed has been checked. -/
structure Alive (codec : Codec Value) (disk : Disk Value) (data : QueueData Value) : Prop where
  history : History codec disk.appended data
  file : ∃ torn, disk.file = codec.bytes disk.appended ++ torn ∧
    Remains codec data disk.unfinished torn
  due : ∀ e ∈ disk.unfinished, Due codec data e

lemma alive_start : Alive codec (World.start : World Value).disk (.start 0) where
  history := .start 0
  file := ⟨[], rfl, rfl⟩
  due := by simp [World.start, World.disk]

section

variable (h : Alive codec disk data)
include h

lemma Alive.checked (he : disk.unfinished = some e) : Checked codec data e := by
  obtain ⟨torn, -, hremains⟩ := h.file
  rw [he] at hremains
  exact ⟨hremains.2, h.due e he⟩

lemma Alive.file_eq (hnone : disk.unfinished = none) : disk.file = codec.bytes disk.appended := by
  obtain ⟨torn, hfile, hremains⟩ := h.file
  rw [hnone] at hremains
  obtain rfl : torn = [] := hremains
  simpa using hfile

lemma Alive.append (hnone : disk.unfinished = none) (hchecked : Checked codec data e) :
    Alive codec (disk.append codec e) (settle data e) where
  history := .append h.history hchecked
  file := ⟨[], by simp [Disk.append, h.file_eq hnone, codec.bytes_concat],
    by simp [Disk.append, hnone, Remains]⟩
  due := by simp [Disk.append, hnone]

lemma Alive.cut (hnone : disk.unfinished = none) (hchecked : Checked codec data e) (kept : ℕ) :
    Alive codec (disk.cut codec e kept) data where
  history := h.history
  file := ⟨(codec.record e).take kept, by simp [Disk.cut, h.file_eq hnone],
    take_prefix _ _, hchecked.1⟩
  due := by simpa [Disk.cut] using hchecked.2

end

/-- A record that was checked keeps the jobs, whatever becomes of the write. -/
theorem Alive.record (h : Alive codec inner.wal.disk inner.data) (htidy : Tidy inner)
    (hchecked : Checked codec inner.data e) :
    Alive codec (inner.record codec e).inner.wal.disk (inner.record codec e).inner.data ∧
      JobsKept inner.data.jobs (inner.record codec e).inner.data.jobs := by
  rcases inner.record_cases codec e with
    ⟨-, hsame⟩ | ⟨hnone, -, hdata, kept, hdisk⟩ | ⟨hnone, -, hdisk, hdata⟩
  · rw [hsame]
    exact ⟨h, .refl⟩
  · rw [hdisk, hdata]
    exact ⟨h.cut (htidy hnone) hchecked kept, .refl⟩
  · rw [hdisk, hdata]
    exact ⟨h.append (htidy hnone) hchecked, settle_jobsKept⟩

lemma CheckedRecords.alive {kinds : WalEvent Value → Prop}
    (hrecords : CheckedRecords codec kinds inner inner') (htidy : Tidy inner)
    (h : Alive codec inner.wal.disk inner.data) :
    Alive codec inner'.wal.disk inner'.data ∧ JobsKept inner.data.jobs inner'.data.jobs := by
  induction hrecords with
  | refl => exact ⟨h, .refl⟩
  | tail hbefore hlast ih =>
    obtain ⟨e, hchecked, -, rfl⟩ := hlast
    obtain ⟨halive, hkept⟩ := ih
    have htidy' := (CheckedRecords.records hbefore).tidy htidy
    obtain ⟨halive', hkept'⟩ := halive.record htidy' hchecked
    exact ⟨halive', hkept.trans hkept'⟩

/-- A log that was just opened, without a torn end. -/
theorem alive_openedWal (codec : Codec Value) (path : String) (h : History codec es data) :
    Alive codec (openedWal codec path es).disk data where
  history := h
  file := ⟨[], by simp [openedWal], rfl⟩
  due := by simp [openedWal]

/-- What the log is read back as: the events that were appended, and perhaps the one whose
append failed. -/
theorem Alive.read (h : Alive codec disk data) :
    ∃ es torn, codec.Holds disk.file es torn ∧
      (es = disk.appended ∧ History codec es data ∨
        ∃ e ∈ disk.unfinished, es = disk.appended ++ [e] ∧ History codec es (settle data e)) := by
  obtain ⟨torn, hfile, hremains⟩ := h.file
  cases hunfinished : disk.unfinished with
  | none =>
    rw [hunfinished] at hremains
    obtain rfl : torn = [] := hremains
    exact ⟨disk.appended, [], ⟨hfile, by simp⟩, .inl ⟨rfl, h.history⟩⟩
  | some e =>
    rw [hunfinished] at hremains
    obtain ⟨es, rest, hes, hholds⟩ := Framing.exists_holds disk.appended hremains.1
    rw [← hfile] at hholds
    rcases hes with rfl | rfl
    · exact ⟨_, rest, hholds, .inl ⟨rfl, h.history⟩⟩
    · exact ⟨_, rest, hholds, .inr ⟨e, rfl, rfl, .append h.history (h.checked hunfinished)⟩⟩

/-! ## Whole lives of a queue -/

/-- The jobs of the queue: those in memory, and while the process is down those that the events
of its log leave. -/
def World.jobs : World Value → TreeMap String (JobRecord Value)
  | .running inner => inner.data.jobs
  | .stopped disk => (settleAll (.start 0) disk.appended).jobs

def World.Alive (codec : Codec Value) : World Value → Prop
  | .running inner => Tidy inner ∧ BatchQueue.Alive codec inner.wal.disk inner.data
  | .stopped disk => ∃ data, BatchQueue.Alive codec disk data

lemma Alive.jobs_stopped (h : Alive codec disk data) : (World.stopped disk).jobs = data.jobs := by
  obtain ⟨tornTail, rfl⟩ := h.history.settled
  show (settleAll ((QueueData.start tornTail).setTornTail 0) disk.appended).jobs = _
  rw [settleAll_setTornTail]
  rfl

lemma World.Alive.exists_data {w : World Value} (h : w.Alive codec) :
    ∃ data, BatchQueue.Alive codec w.disk data ∧ w.jobs = data.jobs := by
  cases w with
  | running inner => exact ⟨inner.data, h.2, rfl⟩
  | stopped disk =>
    obtain ⟨data, halive⟩ := h
    exact ⟨data, halive, halive.jobs_stopped⟩

variable {w : World Value} {path : String} {action : Action Value}

/-- Opening the log: the jobs are those of the log, with the unfinished event or without. -/
theorem Alive.reopen [BEq Value] (h : Alive codec disk data) (path : String) :
    ((World.stopped disk).step codec path .reopen).Alive codec ∧
      (((World.stopped disk).step codec path .reopen).jobs = data.jobs ∨
        ∃ e, disk.unfinished = some e ∧
          ((World.stopped disk).step codec path .reopen).jobs = (settle data e).jobs) := by
  obtain ⟨es, torn, hholds, hread⟩ := h.read
  -- the same jobs, whether the log opens or not
  have hstep : ∀ read : QueueData Value, History codec es read →
      ((World.stopped disk).step codec path .reopen).Alive codec ∧
        ((World.stopped disk).step codec path .reopen).jobs = read.jobs := by
    intro read hhistory
    have halive := alive_openedWal codec path hhistory
    simp only [World.step, openStore, openWal_eq codec hholds]
    cases hreplay : replayEvents (.start (decide (torn ≠ [])).toNat) es with
    | error error => exact ⟨⟨read, halive⟩, halive.jobs_stopped⟩
    | ok data' =>
      have hdata : data' = read.setTornTail (decide (torn ≠ [])).toNat := by
        obtain ⟨tornTail, rfl⟩ := hhistory.settled
        rw [← settleAll_of_replayEvents hreplay, ← settleAll_setTornTail]
        rfl
      subst hdata
      exact ⟨⟨fun _ => rfl, alive_openedWal codec path (hhistory.setTornTail _)⟩, rfl⟩
  rcases hread with ⟨-, hhistory⟩ | ⟨e, he, -, hhistory⟩
  · obtain ⟨halive, hjobs⟩ := hstep data hhistory
    exact ⟨halive, .inl hjobs⟩
  · obtain ⟨halive, hjobs⟩ := hstep _ hhistory
    exact ⟨halive, .inr ⟨e, he, hjobs⟩⟩

lemma World.Alive.step [BEq Value] (h : w.Alive codec) :
    (w.step codec path action).Alive codec ∧
      JobsKept w.jobs (w.step codec path action).jobs := by
  cases w with
  | running inner =>
    obtain ⟨htidy, halive⟩ := h
    cases action with
    | call request nowMs outcomes =>
      have hrecords : CheckedRecords codec request.Records (inner.withOutcomes outcomes)
          ((inner.withOutcomes outcomes).call codec nowMs request).inner := call_checked request
      have htidy' : Tidy (inner.withOutcomes outcomes) := htidy
      have hstart : BatchQueue.Alive codec (inner.withOutcomes outcomes).wal.disk
          (inner.withOutcomes outcomes).data := ⟨halive.history, halive.file, halive.due⟩
      obtain ⟨halive', hkept⟩ := hrecords.alive htidy' hstart
      exact ⟨⟨hrecords.records.tidy htidy', halive'⟩, hkept⟩
    | stop =>
      refine ⟨⟨inner.data, halive⟩, ?_⟩
      rw [World.step, halive.jobs_stopped]
      exact .refl
    | reopen => exact ⟨⟨htidy, halive⟩, .refl⟩
  | stopped disk =>
    cases action with
    | call request nowMs outcomes => exact ⟨h, .refl⟩
    | stop => exact ⟨h, .refl⟩
    | reopen =>
      obtain ⟨data, halive⟩ := h
      obtain ⟨halive', hjobs⟩ := halive.reopen path
      refine ⟨halive', ?_⟩
      rw [halive.jobs_stopped]
      rcases hjobs with hsame | ⟨e, -, hsettled⟩
      · rw [hsame]
        exact .refl
      · rw [hsettled]
        exact settle_jobsKept

lemma World.alive_after [BEq Value] (codec : Codec Value) (path : String)
    (actions : List (Action Value)) : (World.after codec path actions).Alive codec := by
  induction actions using List.reverseRecOn with
  | nil => exact ⟨.start 0, alive_start⟩
  | append_singleton actions action ih =>
    rw [World.after_concat]
    exact ih.step.1

lemma jobsKept_after [BEq Value] (codec : Codec Value) (path : String)
    (before later : List (Action Value)) :
    JobsKept (World.after codec path before).jobs
      (World.after codec path (before ++ later)).jobs := by
  induction later using List.reverseRecOn with
  | nil =>
    rw [append_nil]
    exact .refl
  | append_singleton later action ih =>
    rw [← append_assoc, World.after_concat]
    exact ih.trans (World.alive_after codec path _).step.2

end InferLab.BatchQueue
