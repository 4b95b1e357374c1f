import InferLab.BatchQueue.Model

/-!
# The write-ahead log of the batch queue

`Wal::open`, `Wal::append` and `replay` of `wal.rs`. The file is a list of bytes. What the
operating system does with a write is part of the input: `WriteOutcome` says how much of a
record reaches the file and whether the process hears of an error. A process that dies while
it appends is one whose write fails there: after a failed write no call writes anything else.
`u64::try_from` of a length never fails, and is left out.
-/

namespace InferLab.BatchQueue

open List

/-- What becomes of one record that is appended. -/
inductive WriteOutcome
  | synced
  /-- `write_all`, or after it `sync_data`, fails, and `kept` bytes of the record remain. -/
  | failed (atSync : Bool) (kept : ℕ) (error : String)
  deriving DecidableEq, Repr

/-- The file of the log. The last two fields are not on the disk: they are the history that
the results speak about. -/
structure Disk (Value : Type) where
  file : List UInt8
  /-- What becomes of the next records. -/
  outcomes : List WriteOutcome
  /-- The events whose append has succeeded. -/
  appended : List (WalEvent Value)
  /-- The event whose append has failed since the log was opened. -/
  unfinished : Option (WalEvent Value)

/-- The events whose append was begun. -/
def Disk.written {Value : Type} (disk : Disk Value) : List (WalEvent Value) :=
  disk.appended ++ disk.unfinished.toList

/-- The open log. -/
structure Wal (Value : Type) where
  path : String
  disk : Disk Value
  bytes : ℕ
  events : ℕ
  poisoned : Option String

/-- What an opening reads from the file. -/
structure ReplayResult (Value : Type) where
  events : List (WalEvent Value)
  validBytes : ℕ
  discardedTornTail : Bool

variable {Value : Type} (codec : Codec Value)

/-- The loop of `replay`: `remainder` is the file from `offset` on, and `valid_bytes` is
`offset` whenever the loop begins a record. -/
def replayFrom (path : String) (remainder : List UInt8) (offset : ℕ)
    (events : List (WalEvent Value)) : Except QueueError (ReplayResult Value) :=
  if remainder = [] then
    .ok { events, validBytes := offset, discardedTornTail := false }
  else
    match remainder.findIdx? (· == newline) with
    | none => .ok { events, validBytes := offset, discardedTornTail := true }
    | some relativeNewline =>
      let line := remainder.take relativeNewline
      if line = [] then
        .error (.storage s!"WAL {path} contains an empty record at byte {offset}")
      else
        match codec.decode line with
        | .error error =>
          .error (.storage
            s!"WAL {path} has an invalid complete record at byte {offset}: {error}")
        | .ok event =>
          replayFrom path (remainder.drop (relativeNewline + 1)) (offset + relativeNewline + 1)
            (events ++ [event])
  termination_by remainder.length
  decreasing_by
    have := length_pos_of_ne_nil ‹¬remainder = []›
    rw [length_drop]
    omega

def replay (path : String) (file : List UInt8) : Except QueueError (ReplayResult Value) :=
  replayFrom codec path file 0 []

/-- `Wal::open`. -/
def openWal (path : String) (disk : Disk Value) :
    Except QueueError (Wal Value × ReplayResult Value) :=
  match replay codec path disk.file with
  | .error error => .error error
  | .ok replay =>
    let file :=
      if replay.discardedTornTail then disk.file.take replay.validBytes else disk.file
    .ok ({
      path
      disk := { file, outcomes := [], appended := replay.events, unfinished := none }
      bytes := replay.validBytes
      events := replay.events.length
      poisoned := none }, replay)

/-- The record reaches the disk. -/
def Disk.append (disk : Disk Value) (event : WalEvent Value) : Disk Value :=
  { disk with
    file := disk.file ++ codec.record event
    outcomes := disk.outcomes.tail
    appended := disk.appended ++ [event] }

/-- Of the record `kept` bytes reach the disk. -/
def Disk.cut (disk : Disk Value) (event : WalEvent Value) (kept : ℕ) : Disk Value :=
  { disk with
    file := disk.file ++ (codec.record event).take kept
    outcomes := disk.outcomes.tail
    unfinished := some event }

def Wal.append (wal : Wal Value) (event : WalEvent Value) : Except QueueError Unit × Wal Value :=
  match wal.poisoned with
  | some reason =>
    (.error (.storage s!"WAL is unavailable after an earlier append failure: {reason}"), wal)
  | none =>
    match wal.disk.outcomes.head?.getD .synced with
    | .failed atSync kept error =>
      let message :=
        if atSync then s!"sync WAL record: {error}" else s!"append WAL record: {error}"
      (.error (.storage message),
        { wal with poisoned := some message, disk := wal.disk.cut codec event kept })
    | .synced =>
      (.ok (),
        { wal with
          disk := wal.disk.append codec event
          bytes := saturatingAdd u64Max wal.bytes (codec.record event).length
          events := saturatingAdd u64Max wal.events 1 })

/-! ## What a file is read back as -/

/-- A file is read back as the records it holds; a torn end is noticed. -/
theorem replayFrom_eq {path : String} {es events : List (WalEvent Value)} {torn : List UInt8}
    (htorn : newline ∉ torn) (offset : ℕ) :
    replayFrom codec path (codec.bytes es ++ torn) offset events =
      .ok { events := events ++ es, validBytes := offset + (codec.bytes es).length,
            discardedTornTail := torn ≠ [] } := by
  induction es generalizing offset events with
  | nil =>
    rw [replayFrom]
    by_cases hnil : torn = []
    · simp [hnil]
    · simp [hnil, Framing.findIdx?_torn htorn]
  | cons e es ih =>
    -- the first record is read, and the rest of the file is read from its end
    have hfind := Framing.findIdx?_encode (F := codec.toFraming) (e := e)
      (codec.bytes es ++ torn)
    have hbytes : codec.bytes (e :: es) ++ torn =
        codec.encode e ++ newline :: (codec.bytes es ++ torn) := by
      simp
    rw [hbytes, replayFrom, if_neg (by simp), hfind]
    have hdrop : (codec.encode e ++ newline :: (codec.bytes es ++ torn)).drop
        ((codec.encode e).length + 1) = codec.bytes es ++ torn := by
      rw [← drop_drop, drop_left]
      rfl
    simp only [take_left, codec.encode_ne_nil e, if_false, codec.decode_encode e, hdrop, ih]
    have hlength : (codec.bytes (e :: es)).length =
        (codec.encode e).length + 1 + (codec.bytes es).length := by
      rw [codec.bytes_cons, length_append, length_cons]
      omega
    rw [hlength, append_assoc, singleton_append, Nat.add_assoc offset, Nat.add_assoc offset]

/-- The log as it is opened when the file holds `es`. -/
def openedWal (path : String) (es : List (WalEvent Value)) : Wal Value where
  path
  disk := { file := codec.bytes es, outcomes := [], appended := es, unfinished := none }
  bytes := (codec.bytes es).length
  events := es.length
  poisoned := none

/-- Opening a file that ends in a torn record removes the torn bytes. -/
theorem openWal_eq {disk : Disk Value} {es : List (WalEvent Value)} {torn : List UInt8}
    (h : codec.Holds disk.file es torn) (path : String) :
    openWal codec path disk = .ok (openedWal codec path es,
      { events := es, validBytes := (codec.bytes es).length, discardedTornTail := torn ≠ [] }) := by
  have hreplay : replay codec path disk.file = .ok
      { events := es, validBytes := (codec.bytes es).length, discardedTornTail := torn ≠ [] } := by
    rw [replay, h.eq, replayFrom_eq codec h.torn]
    simp
  unfold openWal openedWal
  rw [hreplay]
  by_cases hnil : torn = []
  · simp [hnil, h.eq]
  · simp [hnil, h.eq]

end InferLab.BatchQueue
