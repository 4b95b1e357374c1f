import InferLab.BatchQueue.Calls
import Mathlib.Data.Nat.Digits.Lemmas
import Mathlib.Logic.Equiv.List
import Mathlib.Tactic.DeriveEncodable
import Mathlib.Tactic.IntervalCases

/-!
# Crash consistency of the batch queue

At every moment the disk is `Recoverable`: the file is the records of the events whose append
succeeded and a beginning of at most one more, which the data permits. `crash_consistency` is
what follows for a process that dies there.
-/

namespace InferLab.BatchQueue

open List

variable {Value : Type} {codec : Codec Value} {inner inner' : StoreInner Value}
  {e : WalEvent Value} {es : List (WalEvent Value)} {data data' : QueueData Value}
  {disk : Disk Value}

/-! ## Replaying a log -/

variable {start : QueueData Value}

lemma replayEvents_concat (h : replayEvents start es = .ok data)
    (happly : applyEvent data e = .ok data') : replayEvents start (es ++ [e]) = .ok data' := by
  unfold replayEvents at h ⊢
  rw [foldlM_append, h]
  simp [bind, Except.bind, happly, pure, Except.pure]

/-- The data after an event was appended. One that does not apply leaves it as it is. -/
def settle (data : QueueData Value) (e : WalEvent Value) : QueueData Value :=
  match applyEvent data e with
  | .ok data' => data'
  | .error _ => data

lemma settle_of_ok (h : applyEvent data e = .ok data') : settle data e = data' := by
  simp [settle, h]

/-- The data with another torn-tail counter. -/
def QueueData.setTornTail (data : QueueData Value) (tornTail : ℕ) : QueueData Value :=
  { data with tornTailRecordsDiscarded := tornTail }

lemma transitionClaimedJob_setTornTail (tornTail : ℕ) (jobId claimToken : String) :
    transitionClaimedJob (data.setTornTail tornTail) jobId claimToken =
      transitionClaimedJob data jobId claimToken := rfl

/-- No event reads or changes the torn-tail counter. -/
theorem applyEvent_setTornTail (tornTail : ℕ) (h : applyEvent data e = .ok data') :
    applyEvent (data.setTornTail tornTail) e = .ok (data'.setTornTail tornTail) := by
  have hjobs : (data.setTornTail tornTail).jobs = data.jobs := rfl
  have hindex : (data.setTornTail tornTail).idempotencyIndex = data.idempotencyIndex := rfl
  cases e
  case enqueued =>
    simp only [applyEvent, hjobs, hindex] at h ⊢
    split_ifs at h ⊢
    obtain rfl := Except.ok.inj h
    rfl
  case claimed jobId _ _ _ _ _ =>
    simp only [applyEvent, hjobs] at h ⊢
    cases hget : data.jobs[jobId]? with
    | none => simp [hget] at h
    | some job =>
      simp only [hget] at h ⊢
      split_ifs at h ⊢ <;>
      · obtain rfl := Except.ok.inj h
        rfl
  -- the three events that end a claim find their job in the same way
  all_goals
    simp only [applyEvent, transitionClaimedJob_setTornTail] at h ⊢
    generalize transitionClaimedJob data _ _ = found at h ⊢
    cases found with
    | error error => simp at h
    | ok job =>
      obtain rfl := Except.ok.inj h
      rfl

lemma replayEvents_cons :
    replayEvents start (e :: es) = .ok data ↔
      ∃ next, applyEvent start e = .ok next ∧ replayEvents next es = .ok data := by
  unfold replayEvents
  rw [foldlM_cons]
  cases applyEvent start e <;> simp [bind, Except.bind]

/-- A log that replays does so in two parts. -/
theorem replayEvents_of_append {es' : List (WalEvent Value)}
    (h : replayEvents start (es ++ es') = .ok data) :
    ∃ earlier, replayEvents start es = .ok earlier ∧ replayEvents earlier es' = .ok data := by
  induction es generalizing start with
  | nil => exact ⟨start, rfl, h⟩
  | cons e es ih =>
    obtain ⟨next, happly, hrest⟩ := replayEvents_cons.mp h
    obtain ⟨earlier, hearlier, hlater⟩ := ih hrest
    exact ⟨earlier, replayEvents_cons.mpr ⟨next, happly, hearlier⟩, hlater⟩

lemma replayEvents_setTornTail (tornTail : ℕ) (h : replayEvents start es = .ok data) :
    replayEvents (start.setTornTail tornTail) es = .ok (data.setTornTail tornTail) := by
  induction es generalizing start with
  | nil =>
    obtain rfl := Except.ok.inj h
    rfl
  | cons e es ih =>
    obtain ⟨next, happly, hrest⟩ := replayEvents_cons.mp h
    exact replayEvents_cons.mpr ⟨_, applyEvent_setTornTail tornTail happly, ih hrest⟩

/-! ## The disk and the data -/

/-- The bytes after the records of the log: a beginning of the event that failed, if one did. -/
def Remains (codec : Codec Value) (data : QueueData Value) :
    Option (WalEvent Value) → List UInt8 → Prop
  | none, torn => torn = []
  | some e, torn => torn <+: codec.record e ∧ Permitted data e

/-- The data is what the log of the disk says, and the file holds that log. -/
structure Recoverable (codec : Codec Value) (disk : Disk Value) (data : QueueData Value) :
    Prop where
  replayed : ∃ tornTail, replayEvents (.start tornTail) disk.appended = .ok data
  tracks : Tracks disk.appended data
  file : ∃ torn, disk.file = codec.bytes disk.appended ++ torn ∧
    Remains codec data disk.unfinished torn

/-- After a failed append the store is poisoned. -/
def Tidy (inner : StoreInner Value) : Prop :=
  inner.wal.poisoned = none → inner.wal.disk.unfinished = none

/-- What a record does: nothing on a poisoned log; else it fails and poisons the log, or its
event is appended and then applied. -/
theorem StoreInner.record_cases (codec : Codec Value) (inner : StoreInner Value)
    (e : WalEvent Value) :
    (inner.wal.poisoned ≠ none ∧ (inner.record codec e).inner = inner) ∨
    (inner.wal.poisoned = none ∧ (inner.record codec e).inner.wal.poisoned ≠ none ∧
      (inner.record codec e).inner.data = inner.data ∧
      ∃ kept, (inner.record codec e).inner.wal.disk = inner.wal.disk.cut codec e kept) ∨
    (inner.wal.poisoned = none ∧ (inner.record codec e).inner.wal.poisoned = none ∧
      (inner.record codec e).inner.wal.disk = inner.wal.disk.append codec e ∧
      (inner.record codec e).inner.data = settle inner.data e) := by
  unfold StoreInner.record Wal.append
  cases hpoisoned : inner.wal.poisoned with
  | some reason => exact .inl ⟨by simp, by simp⟩
  | none =>
    refine .inr ?_
    cases houtcome : inner.wal.disk.outcomes.head?.getD .synced with
    | failed atSync kept error => exact .inl ⟨rfl, by simp, by simp, kept, by simp⟩
    | synced =>
      refine .inr ?_
      cases happly : applyEvent inner.data e with
      | error error => simp [settle, happly]
      | ok data => simp [settle, happly]

lemma Tidy.record (h : Tidy inner) : Tidy (inner.record codec e).inner := by
  intro hpoisoned
  rcases inner.record_cases codec e with
    ⟨-, hsame⟩ | ⟨-, hpoison, -⟩ | ⟨hnone, -, hdisk, -⟩
  · rw [hsame] at hpoisoned ⊢
    exact h hpoisoned
  · exact absurd hpoisoned hpoison
  · rw [hdisk]
    exact h hnone

/-- The events whose append was begun stay. -/
theorem Tidy.written_sublist (h : Tidy inner) :
    inner.wal.disk.written.Sublist (inner.record codec e).inner.wal.disk.written := by
  unfold Disk.written
  rcases inner.record_cases codec e with
    ⟨-, hsame⟩ | ⟨hnone, -, -, kept, hdisk⟩ | ⟨hnone, -, hdisk, -⟩
  · rw [hsame]
  · rw [hdisk, h hnone]
    simp [Disk.cut]
  · rw [hdisk, h hnone]
    simp [Disk.append, h hnone]

/-- A permitted record keeps the disk recoverable, whatever becomes of the write. -/
theorem Recoverable.record (h : Recoverable codec inner.wal.disk inner.data) (htidy : Tidy inner)
    (hp : Permitted inner.data e)
    (hb : Bounded (inner.record codec e).inner.wal.disk.written) :
    Recoverable codec (inner.record codec e).inner.wal.disk
      (inner.record codec e).inner.data := by
  rcases inner.record_cases codec e with
    ⟨-, hsame⟩ | ⟨hnone, -, hdata, kept, hdisk⟩ | ⟨hnone, -, hdisk, hdata⟩
  · rwa [hsame]
  · obtain ⟨torn, hfile, hremains⟩ := h.file
    rw [htidy hnone] at hremains
    obtain rfl : torn = [] := hremains
    rw [hdisk, hdata]
    refine ⟨h.replayed, h.tracks, (codec.record e).take kept, ?_, take_prefix _ _, hp⟩
    simp [Disk.cut, hfile]
  · obtain ⟨torn, hfile, hremains⟩ := h.file
    rw [htidy hnone] at hremains
    obtain rfl : torn = [] := hremains
    have hbounded : Bounded (inner.wal.disk.appended ++ [e]) := by
      rw [hdisk] at hb
      exact hb.sublist (sublist_append_left _ _)
    obtain ⟨data', happly, htracks⟩ := h.tracks.apply hp hbounded
    obtain ⟨tornTail, hreplayed⟩ := h.replayed
    rw [hdisk, hdata, settle_of_ok happly]
    refine ⟨⟨tornTail, replayEvents_concat hreplayed happly⟩, htracks, [], ?_, ?_⟩
    · simp [Disk.append, hfile, codec.bytes_concat]
    · simp [Disk.append, htidy hnone, Remains]

section

variable (hrecords : Records codec inner inner')
include hrecords

lemma Records.tidy (h : Tidy inner) : Tidy inner' := by
  induction hrecords with
  | refl => exact h
  | tail _ hlast ih =>
    obtain ⟨e, -, rfl⟩ := hlast
    exact ih.record

/-- A recoverable store stays so through all the records of a call. -/
theorem Records.recoverable (htidy : Tidy inner) (h : Recoverable codec inner.wal.disk inner.data)
    (hb : Bounded inner'.wal.disk.written) : Recoverable codec inner'.wal.disk inner'.data := by
  induction hrecords with
  | refl => exact h
  | tail hbefore hlast ih =>
    obtain ⟨e, hp, rfl⟩ := hlast
    have htidy' := Records.tidy hbefore htidy
    exact (ih (hb.sublist htidy'.written_sublist)).record htidy' hp hb

/-- The log only grows. -/
theorem Records.appended_isPrefix : inner.wal.disk.appended <+: inner'.wal.disk.appended := by
  induction hrecords with
  | refl => exact prefix_rfl
  | @tail a b _ hlast ih =>
    obtain ⟨e, -, rfl⟩ := hlast
    refine ih.trans ?_
    rcases a.record_cases codec e with ⟨-, hsame⟩ | ⟨-, -, -, kept, hdisk⟩ | ⟨-, -, hdisk, -⟩
    · rw [hsame]
    · rw [hdisk]
      exact prefix_rfl
    · rw [hdisk]
      exact prefix_append _ _

end

/-! ## Opening the log -/

/-- The store that `QueueStore::open` makes of a disk whose file holds `es` and torn bytes. -/
structure Reopened (codec : Codec Value) (path : String) (disk : Disk Value)
    (es : List (WalEvent Value)) (torn : List UInt8) (inner : StoreInner Value) : Prop where
  opens : openStore codec path disk = (.ok inner, inner.wal.disk)
  data : replayEvents (.start (decide (torn ≠ [])).toNat) es = .ok inner.data
  /-- The torn bytes are gone from the file. -/
  removed : disk.file = inner.wal.disk.file ++ torn
  file : inner.wal.disk.file = codec.bytes es
  bytes : inner.wal.bytes = inner.wal.disk.file.length

/-- The events a recoverable disk is read back as: those appended, and perhaps one more. -/
theorem Recoverable.reopened (h : Recoverable codec disk data) (hb : Bounded disk.written)
    (path : String) :
    ∃ es torn inner, (es = disk.appended ∨ ∃ e ∈ disk.unfinished, es = disk.appended ++ [e]) ∧
      Reopened codec path disk es torn inner ∧ Tidy inner ∧
      inner.wal.disk.appended = es ∧ Recoverable codec inner.wal.disk inner.data := by
  obtain ⟨tornTail, hreplayed⟩ := h.replayed
  -- the file holds a log that replays, in each of the three cases
  have hholds : ∃ es torn data', (es = disk.appended ∨
      ∃ e ∈ disk.unfinished, es = disk.appended ++ [e]) ∧ codec.Holds disk.file es torn ∧
      replayEvents (.start tornTail) es = .ok data' ∧ Tracks es data' := by
    obtain ⟨torn, hfile, hremains⟩ := h.file
    cases hunfinished : disk.unfinished with
    | none =>
      rw [hunfinished] at hremains
      obtain rfl : torn = [] := hremains
      exact ⟨disk.appended, [], data, .inl rfl, ⟨hfile, by simp⟩, hreplayed, h.tracks⟩
    | some e =>
      rw [hunfinished] at hremains
      obtain ⟨hpre, hp⟩ := hremains
      have hbounded : Bounded (disk.appended ++ [e]) := by
        simpa [Disk.written, hunfinished] using hb
      obtain ⟨es, rest, hes, hholds⟩ := Framing.exists_holds disk.appended hpre
      rw [← hfile] at hholds
      rcases hes with rfl | rfl
      · exact ⟨_, rest, data, .inl rfl, hholds, hreplayed, h.tracks⟩
      · obtain ⟨data', happly, htracks⟩ := h.tracks.apply hp hbounded
        exact ⟨_, rest, data', .inr ⟨e, rfl, rfl⟩, hholds,
          replayEvents_concat hreplayed happly, htracks⟩
  obtain ⟨es, torn, data', hes, hholds, hreplay, htracks⟩ := hholds
  set reopened := data'.setTornTail (decide (torn ≠ [])).toNat with hreopened
  have hreplay' : replayEvents (.start (decide (torn ≠ [])).toNat) es = .ok reopened :=
    replayEvents_setTornTail _ hreplay
  refine ⟨es, torn, { wal := openedWal codec path es, data := reopened }, hes,
    ⟨?_, hreplay', hholds.eq, rfl, rfl⟩, fun _ => rfl, rfl, ⟨_, hreplay'⟩, ?_, [], ?_, rfl⟩
  · unfold openStore
    rw [openWal_eq codec hholds]
    simp only [hreplay']
  · exact ⟨htracks.lawful, htracks.agrees, htracks.status, htracks.nextJob, htracks.nextClaim,
      htracks.jobs, htracks.tokens⟩
  · exact (append_nil _).symm

/-! ## Whole lives of a queue -/

/-- The disk is recoverable, and to the data of the process while it runs. -/
def World.Sound (codec : Codec Value) : World Value → Prop
  | .running inner => Tidy inner ∧ Recoverable codec inner.wal.disk inner.data
  | .stopped disk => ∃ data, Recoverable codec disk data

lemma World.Sound.recoverable {w : World Value} (h : w.Sound codec) :
    ∃ data, Recoverable codec w.disk data := by
  cases w with
  | running inner => exact ⟨inner.data, h.2⟩
  | stopped disk => exact h

lemma World.sound_start : (World.start : World Value).Sound codec :=
  ⟨.start 0, ⟨0, rfl⟩, tracks_start 0, [], rfl, rfl⟩

variable [BEq Value] {path : String} {actions : List (Action Value)} {action : Action Value}

lemma World.Sound.step {w : World Value} (h : w.Sound codec) (hb : Bounded w.disk.written)
    (hb' : Bounded (w.step codec path action).disk.written) :
    (w.step codec path action).Sound codec := by
  cases w with
  | running inner =>
    obtain ⟨htidy, hrecoverable⟩ := h
    cases action with
    | call request nowMs outcomes =>
      -- the outcomes of the writes are not part of what is recovered
      have htidy' : Tidy (inner.withOutcomes outcomes) := htidy
      have hrecoverable' : Recoverable codec (inner.withOutcomes outcomes).wal.disk
          (inner.withOutcomes outcomes).data :=
        ⟨hrecoverable.replayed, hrecoverable.tracks, hrecoverable.file⟩
      have hrecords : Records codec (inner.withOutcomes outcomes)
          ((inner.withOutcomes outcomes).call codec nowMs request).inner :=
        call_records request
      exact ⟨hrecords.tidy htidy', hrecords.recoverable htidy' hrecoverable' hb'⟩
    | stop => exact ⟨inner.data, hrecoverable⟩
    | reopen => exact ⟨htidy, hrecoverable⟩
  | stopped disk =>
    cases action with
    | call request nowMs outcomes => exact h
    | stop => exact h
    | reopen =>
      obtain ⟨data, hrecoverable⟩ := h
      obtain ⟨es, torn, inner, -, hreopened, htidy, -, hrecoverable'⟩ :=
        hrecoverable.reopened hb path
      simp only [World.step, hreopened.opens]
      exact ⟨htidy, hrecoverable'⟩

/-- Through the whole run fewer than `2 ^ 64 - 1` jobs and claims are written. -/
def BoundedRun (codec : Codec Value) (path : String) (actions : List (Action Value)) : Prop :=
  ∀ before, before <+: actions → Bounded (World.after codec path before).disk.written

lemma World.after_concat :
    World.after codec path (actions ++ [action]) =
      (World.after codec path actions).step codec path action := by
  simp [World.after]

lemma BoundedRun.earlier (h : BoundedRun codec path actions) {before : List (Action Value)}
    (hpre : before <+: actions) : BoundedRun codec path before :=
  fun _ hearlier => h _ (hearlier.trans hpre)

lemma World.sound_after (hb : BoundedRun codec path actions) :
    (World.after codec path actions).Sound codec := by
  induction actions using List.reverseRecOn with
  | nil => exact World.sound_start
  | append_singleton actions action ih =>
    have hearlier := hb actions (prefix_append _ _)
    have hlast := hb _ prefix_rfl
    rw [World.after_concat] at hlast ⊢
    exact (ih (hb.earlier (prefix_append _ _))).step hearlier hlast

/-- Wherever the process dies, the log opens again: to the events whose append succeeded, and
perhaps the one that was being appended, with the torn bytes removed. While it runs, its data
is the replay of all events whose append succeeded, so each of them could be applied; and as
long as no append has failed, the file itself reads back as that data. -/
theorem crash_consistency (codec : Codec Value) (path : String) (actions : List (Action Value))
    (hb : BoundedRun codec path actions) :
    let w := World.after codec path actions
    (∃ es torn inner,
      (es = w.disk.appended ∨ ∃ e ∈ w.disk.unfinished, es = w.disk.appended ++ [e]) ∧
        Reopened codec path w.disk es torn inner) ∧
    ∀ inner, w = .running inner →
      (∃ tornTail, replayEvents (.start tornTail) w.disk.appended = .ok inner.data) ∧
      (w.disk.unfinished = none → ∃ reopened,
        openStore codec path w.disk = (.ok reopened, reopened.wal.disk) ∧
          reopened.wal.disk.file = w.disk.file ∧ reopened.data = inner.data.setTornTail 0) := by
  intro w
  have hsound : w.Sound codec := World.sound_after hb
  have hbounded : Bounded w.disk.written := hb actions prefix_rfl
  obtain ⟨data, hrecoverable⟩ := hsound.recoverable
  obtain ⟨es, torn, reopened, hes, hreopened, -⟩ := hrecoverable.reopened hbounded path
  refine ⟨⟨es, torn, reopened, hes, hreopened⟩, ?_⟩
  intro inner hrunning
  rw [hrunning] at hsound hes hreopened ⊢
  obtain ⟨-, hrecoverable⟩ := hsound
  refine ⟨hrecoverable.replayed, fun hnone => ?_⟩
  obtain ⟨tornTail, hreplayed⟩ := hrecoverable.replayed
  obtain ⟨rest, hfile, hremains⟩ := hrecoverable.file
  -- nothing is torn: the file is the records of the events that were appended
  have hnone' : inner.wal.disk.unfinished = none := hnone
  rw [hnone'] at hremains
  obtain rfl : rest = [] := hremains
  obtain rfl : es = inner.wal.disk.appended := by
    rcases hes with hes | ⟨e, he, -⟩
    · exact hes
    · rw [hnone] at he
      simp at he
  obtain rfl : torn = [] := by
    have := hreopened.removed
    rw [hreopened.file] at this
    exact append_cancel_left (this.symm.trans hfile)
  refine ⟨reopened, hreopened.opens, ?_, ?_⟩
  · simpa using hreopened.removed.symm
  · have hdata := replayEvents_setTornTail 0 hreplayed
    exact Except.ok.inj (hreopened.data.symm.trans hdata)

lemma boundedRun_iff :
    BoundedRun codec path actions ↔
      ∀ before ∈ actions.inits, Bounded (World.after codec path before).disk.written := by
  simp [BoundedRun, mem_inits]

instance encodableString : Encodable String :=
  Encodable.ofLeftInverse (fun s => s.toList.map Char.toNat)
    (fun codes => String.ofList (codes.map Char.ofNat)) fun s => by
      have hid : Char.ofNat ∘ Char.toNat = id := by
        funext c
        exact Char.ofNat_toNat c
      rw [map_map, hid, map_id, String.ofList_toList]

deriving instance Encodable for WalEvent

/-- A codec for payloads that carry nothing: the number of an event among all events, in
binary, after a byte that is always there. -/
def exampleCodec : Codec Unit where
  encode e := 1 :: (Nat.digits 2 (Encodable.encode e)).map UInt8.ofNat
  decode bytes :=
    match Encodable.decode (Nat.ofDigits 2 (bytes.tail.map UInt8.toNat)) with
    | some e => .ok e
    | none => .error "no event has this number"
  decode_encode e := by
    have hdigits : ((Nat.digits 2 (Encodable.encode e)).map UInt8.ofNat).map UInt8.toNat =
        Nat.digits 2 (Encodable.encode e) := by
      rw [map_map]
      conv_rhs => rw [← map_id (Nat.digits 2 (Encodable.encode e))]
      apply map_congr_left
      intro d hd
      have hlt : d < 2 := Nat.digits_lt_base (by omega) hd
      simp only [Function.comp_apply, UInt8.toNat_ofNat', id_eq]
      omega
    rw [tail_cons, hdigits, Nat.ofDigits_digits, Encodable.encodek]
  mark_notMem e := by
    simp only [mem_cons, mem_map, not_or, not_exists, not_and]
    refine ⟨by decide, fun d hd => ?_⟩
    have hlt : d < 2 := Nat.digits_lt_base (by omega) hd
    interval_cases d <;> decide
  encode_ne_nil e := by simp
  payloadLength _ := 4

/-- The process dies when three bytes of a claim are written. -/
def tornClaim : List (Action Unit) :=
  [.reopen,
    .call (.enqueue { idempotencyKey := "request-1", payload := () }) 100 [],
    .call (.claim { consumerId := "consumer-a" }) 110 [.failed false 3 "no space left on device"],
    .stop]

theorem crash_consistency_tornClaim : BoundedRun exampleCodec "events.wal" tornClaim ∧
    ∃ es torn inner, Reopened exampleCodec "events.wal"
      (World.after exampleCodec "events.wal" tornClaim).disk es torn inner := by
  have hb : BoundedRun exampleCodec "events.wal" tornClaim :=
    boundedRun_iff.mpr (by decide +kernel)
  obtain ⟨⟨es, torn, inner, -, hreopened⟩, -⟩ :=
    crash_consistency exampleCodec "events.wal" tornClaim hb
  exact ⟨hb, es, torn, inner, hreopened⟩

end InferLab.BatchQueue
