import InferLab.Gateway.Bootstrap
import InferLab.Receiver.Rollback

/-!
# Files of bounded size

The gateway's snapshot and the receiver's cache of trust policies are written by the same pattern:
the text is checked against a bound, and the file gets the text and a new line. A load checks the
whole file against the same bound. So a text of exactly that size is written and cannot be read.
-/

namespace InferLab

open Wire ServiceAuth List Gateway Except

/-! ## The routing snapshot of a gateway -/

namespace Gateway

variable [PrettyJson PersistedRoutingSnapshot] {snapshot : PersistedRoutingSnapshot}

lemma encodeSnapshot_eq_ok_iff {bytes : Bytes} :
    encodeSnapshot snapshot = .ok bytes ↔ validateSnapshot snapshot = .ok () ∧
      (PrettyJson.toVecPretty snapshot).length ≤ maxSnapshotBytes ∧
      bytes = PrettyJson.toVecPretty snapshot ++ [10] := by
  unfold encodeSnapshot
  simp only [bind_eq_ok_iff, require_eq_ok_iff, decide_eq_true_eq, exists_const]
  constructor
  · rintro ⟨_, hvalid, hsize, hbytes⟩
    exact ⟨hvalid, hsize, (ok.inj hbytes).symm⟩
  · rintro ⟨hvalid, hsize, rfl⟩
    exact ⟨(), hvalid, hsize, rfl⟩

variable {committed : CommittedRoutingConfiguration}

/-- A successful save leaves the text and a new line. -/
theorem of_saveSnapshot {outcome : SaveOutcome} {file file' : SnapshotFile}
    (h : saveSnapshot committed outcome file = .ok snapshot file') :
    snapshot = ⟨routingSnapshotSchema, outcome.savedAtMs, committed⟩ ∧
      encodeSnapshot snapshot = .ok (PrettyJson.toVecPretty snapshot ++ [10]) ∧
      file' = .ok (PrettyJson.toVecPretty snapshot ++ [10]) := by
  unfold saveSnapshot at h
  cases hencoded : encodeSnapshot ⟨routingSnapshotSchema, outcome.savedAtMs, committed⟩ with
  | error error =>
    simp only [hencoded] at h
    cases h
  | ok bytes =>
    cases hfailure : outcome.failure with
    | some error =>
      simp only [hencoded, hfailure] at h
      cases h
    | none =>
      simp only [hencoded, hfailure] at h
      cases h
      obtain ⟨-, -, rfl⟩ := encodeSnapshot_eq_ok_iff.mp hencoded
      exact ⟨rfl, hencoded, rfl⟩

/-- A valid snapshot within the bound is saved. -/
theorem saveSnapshot_eq_ok {savedAtMs : UInt64}
    (hvalid : validateCommitted committed = .ok ())
    (hsize : (PrettyJson.toVecPretty (⟨routingSnapshotSchema, savedAtMs, committed⟩ :
      PersistedRoutingSnapshot)).length ≤ maxSnapshotBytes) (file : SnapshotFile) :
    saveSnapshot committed ⟨savedAtMs, none⟩ file =
      .ok ⟨routingSnapshotSchema, savedAtMs, committed⟩ (.ok (PrettyJson.toVecPretty
        (⟨routingSnapshotSchema, savedAtMs, committed⟩ : PersistedRoutingSnapshot) ++ [10])) := by
  have hvalid : validateSnapshot ⟨routingSnapshotSchema, savedAtMs, committed⟩ = .ok () :=
    bind_eq_ok_iff.mpr ⟨(), require_eq_ok_iff.mpr (beq_self_eq_true _), hvalid⟩
  unfold saveSnapshot
  simp only [encodeSnapshot_eq_ok_iff.mpr ⟨hvalid, hsize, rfl⟩]
  rfl

lemma loadSnapshot_eq_ok_iff {path : String} {bytes : Bytes} :
    loadSnapshot path (.ok bytes) = .ok snapshot ↔ bytes.length ≤ maxSnapshotBytes ∧
      Json.fromSlice bytes = some snapshot ∧ validateSnapshot snapshot = .ok () := by
  constructor
  · intro h
    obtain ⟨_, hbytes, h⟩ := of_bind h
    obtain rfl := ok.inj hbytes
    obtain ⟨_, hsize, h⟩ := of_bind h
    cases hdecoded : (Json.fromSlice bytes : Option PersistedRoutingSnapshot) with
    | none =>
      simp only [hdecoded] at h
      cases h
    | some found =>
      simp only [hdecoded] at h
      obtain ⟨_, hvalid, h⟩ := of_bind h
      obtain rfl := ok.inj h
      exact ⟨by simpa using of_require hsize, rfl, hvalid⟩
  · rintro ⟨hsize, hdecoded, hvalid⟩
    refine bind_eq_ok_iff.mpr ⟨bytes, rfl, bind_eq_ok_iff.mpr ⟨(), ?_, ?_⟩⟩
    · exact require_eq_ok_iff.mpr (by simpa using hsize)
    · simp only [hdecoded]
      exact bind_eq_ok_iff.mpr ⟨(), hvalid, rfl⟩

lemma loadSnapshot_of_large {path : String} {bytes : Bytes}
    (h : maxSnapshotBytes < bytes.length) :
    loadSnapshot path (.ok bytes) = .error (IoError.invalidData
      s!"routing snapshot {path} is {bytes.length} bytes; maximum is {maxSnapshotBytes}") := by
  have hlarge : decide (bytes.length ≤ maxSnapshotBytes) = false := decide_eq_false (by omega)
  unfold loadSnapshot require
  simp only [bind, Except.bind, hlarge]
  rfl

/-- A text of exactly the bound is in a file that is too large. -/
theorem loadSnapshot_of_full {path : String}
    (h : (PrettyJson.toVecPretty snapshot).length = maxSnapshotBytes) :
    ∃ error, loadSnapshot path (.ok (PrettyJson.toVecPretty snapshot ++ [10])) = .error error := by
  refine ⟨_, loadSnapshot_of_large ?_⟩
  rw [length_append, h]
  exact Nat.lt_succ_self _

lemma loadSnapshot_saved_iff [LawfulPrettyJson PersistedRoutingSnapshot] {outcome : SaveOutcome}
    {file file' : SnapshotFile}
    (h : saveSnapshot committed outcome file = .ok snapshot file') (path : String) :
    loadSnapshot path file' = .ok snapshot ↔
      (PrettyJson.toVecPretty snapshot).length < maxSnapshotBytes := by
  obtain ⟨-, hencoded, rfl⟩ := of_saveSnapshot h
  obtain ⟨hvalid, -, -⟩ := encodeSnapshot_eq_ok_iff.mp hencoded
  have hdecoded := LawfulPrettyJson.fromSlice_toVecPretty snapshot
  rw [loadSnapshot_eq_ok_iff, and_iff_left ⟨hdecoded, hvalid⟩, length_append,
    length_singleton, Nat.succ_le_iff]

end Gateway

/-! ## The trust cache of a receiver -/

namespace Receiver

variable {P : Type} [UrlParser] [PrettyJson PersistedServiceTrustCache]
  {cache : PersistedServiceTrustCache}

omit [UrlParser] [PrettyJson PersistedServiceTrustCache] in
lemma check_bind_eq_ok_iff {α β : Type} {x : Except String α} {k : α → Call P β} {b : β}
    {s s' : Session P} : (check x >>= k) s = .ok b s' ↔ ∃ a, x = .ok a ∧ k a s = .ok b s' := by
  cases x with
  | ok a =>
    constructor
    · exact fun h => ⟨a, rfl, h⟩
    · rintro ⟨_, heq, h⟩
      cases heq
      exact h
  | error message =>
    constructor
    · intro h
      cases h
    · rintro ⟨_, heq, -⟩
      cases heq

/-- A successful save leaves the text and a new line. -/
theorem of_saveCache {outcome : SaveOutcome} {s s' : Session P}
    (h : saveCache cache outcome s = .ok () s') :
    validateCache cache = .ok () ∧ (PrettyJson.toVecPretty cache).length ≤ maxCacheBytes ∧
      s'.disk.cache = some (PrettyJson.toVecPretty cache ++ [10]) := by
  obtain ⟨_, hvalid, h⟩ := check_bind_eq_ok_iff.mp h
  obtain ⟨_, hsize, h⟩ := check_bind_eq_ok_iff.mp h
  refine ⟨hvalid, by simpa using of_require hsize, ?_⟩
  cases outcome with
  | saved =>
    cases h
    rfl
  | failed replaced message => cases replaced <;> cases h
  | crashed replaced => cases replaced <;> cases h

/-- A valid cache within the bound is saved. -/
theorem saveCache_eq_ok (hvalid : validateCache cache = .ok ())
    (hsize : (PrettyJson.toVecPretty cache).length ≤ maxCacheBytes) (s : Session P) :
    saveCache cache .saved s = .ok () (s.replaceCache (PrettyJson.toVecPretty cache ++ [10])) :=
  check_bind_eq_ok_iff.mpr ⟨(), hvalid, check_bind_eq_ok_iff.mpr
    ⟨(), require_eq_ok_iff.mpr (decide_eq_true hsize), rfl⟩⟩

lemma loadCache_eq_ok_iff {path : String} {disk : Disk} {bytes : Bytes}
    (hdisk : disk.cache = some bytes) :
    loadCache path disk none = .ok (some cache) ↔ bytes.length ≤ maxCacheBytes ∧
      Json.fromSlice bytes = some cache ∧ validateCache cache = .ok () := by
  unfold loadCache
  simp only [hdisk]
  constructor
  · intro h
    obtain ⟨_, hsize, h⟩ := of_bind h
    cases hdecoded : (Json.fromSlice bytes : Option PersistedServiceTrustCache) with
    | none =>
      simp only [hdecoded] at h
      cases h
    | some found =>
      simp only [hdecoded] at h
      obtain ⟨_, hvalid, h⟩ := of_bind h
      obtain rfl := Option.some.inj (ok.inj h)
      exact ⟨by simpa using of_require hsize, rfl, hvalid⟩
  · rintro ⟨hsize, hdecoded, hvalid⟩
    refine bind_eq_ok_iff.mpr ⟨(), require_eq_ok_iff.mpr (by simpa using hsize), ?_⟩
    simp only [hdecoded]
    exact bind_eq_ok_iff.mpr ⟨(), hvalid, rfl⟩

lemma loadCache_of_large {path : String} {disk : Disk} {bytes : Bytes}
    (hdisk : disk.cache = some bytes) (h : maxCacheBytes < bytes.length) :
    loadCache path disk none = .error
      s!"service-trust cache {path} is {bytes.length} bytes; maximum is {maxCacheBytes}" := by
  have hlarge : decide (bytes.length ≤ maxCacheBytes) = false := decide_eq_false (by omega)
  unfold loadCache require
  simp only [hdisk, hlarge]
  rfl

lemma loadCache_of_full {path : String} {disk : Disk}
    (hdisk : disk.cache = some (PrettyJson.toVecPretty cache ++ [10]))
    (h : (PrettyJson.toVecPretty cache).length = maxCacheBytes) :
    ∃ error, loadCache path disk none = .error error := by
  refine ⟨_, loadCache_of_large hdisk ?_⟩
  rw [length_append, h]
  exact Nat.lt_succ_self _

lemma loadCache_saved_iff [LawfulPrettyJson PersistedServiceTrustCache]
    {outcome : SaveOutcome} {s s' : Session P}
    (h : saveCache cache outcome s = .ok () s') (path : String) :
    loadCache path s'.disk none = .ok (some cache) ↔
      (PrettyJson.toVecPretty cache).length < maxCacheBytes := by
  obtain ⟨hvalid, -, hdisk⟩ := of_saveCache h
  have hdecoded := LawfulPrettyJson.fromSlice_toVecPretty cache
  rw [loadCache_eq_ok_iff hdisk, and_iff_left ⟨hdecoded, hvalid⟩, length_append,
    length_singleton, Nat.succ_le_iff]

end Receiver

/-! ## Both -/

/-- After a successful save, a load gives the saved value back exactly if the text is smaller than
the bound. -/
theorem save_load_iff {P : Type} [Receiver.UrlParser]
    [PrettyJson PersistedRoutingSnapshot]
    [LawfulPrettyJson PersistedRoutingSnapshot]
    [PrettyJson Receiver.PersistedServiceTrustCache]
    [LawfulPrettyJson Receiver.PersistedServiceTrustCache] (path : String) :
    (∀ committed outcome file snapshot file',
      saveSnapshot committed outcome file = .ok snapshot file' →
      (loadSnapshot path file' = .ok snapshot ↔
        (PrettyJson.toVecPretty snapshot).length < maxSnapshotBytes)) ∧
    ∀ cache outcome (s s' : Receiver.Session P), Receiver.saveCache cache outcome s = .ok () s' →
      (Receiver.loadCache path s'.disk none = .ok (some cache) ↔
        (PrettyJson.toVecPretty cache).length < Receiver.maxCacheBytes) :=
  ⟨fun _ _ _ _ _ h => loadSnapshot_saved_iff h path,
    fun _ _ _ _ h => Receiver.loadCache_saved_iff h path⟩

section Sample

open Codec

lemma length_put_string (n : ℕ) :
    (string.put (String.ofList (List.replicate n 'a'))).length = 2 * n + 1 := by
  have hlist : ∀ n, (putList char (List.replicate n 'a')).length = 2 * n + 1 := by
    intro n
    induction n with
    | zero => rfl
    | succ n ih =>
      have hchar : char.put 'a' = [97] := rfl
      rw [replicate_succ, putList, hchar, length_cons, length_append, ih,
        length_singleton]
      omega
  change (putList char (String.ofList (List.replicate n 'a')).toList).length = 2 * n + 1
  rw [String.toList_ofList, hlist]

/-- A configuration of one worker, with a URL of some length. -/
def longCommitted (n : ℕ) : CommittedRoutingConfiguration :=
  ⟨"c", 1, 1, ⟨"rr", [⟨"w", String.ofList (List.replicate n 'a'), 1⟩]⟩, none⟩

def longSnapshot (n : ℕ) : PersistedRoutingSnapshot :=
  ⟨routingSnapshotSchema, 7, longCommitted n⟩

lemma length_put_longSnapshot (n : ℕ) :
    (persistedCodec.put (longSnapshot n)).length = 2 * n + 120 := by
  change (string.put routingSnapshotSchema ++ (u64.put 7 ++ (string.put "c" ++ (u64.put 1 ++
    (u64.put 1 ++ ((string.put "rr" ++ (1 :: ((string.put "w" ++
      (string.put (String.ofList (List.replicate n 'a')) ++ u64.put (1 : UInt32).toUInt64)) ++
        [0]))) ++ [0])))))).length = _
  have hschema : (string.put routingSnapshotSchema).length = 73 := by decide +kernel
  simp only [length_append, length_cons, length_nil, length_put_string, hschema,
    show (string.put "c").length = 3 from rfl, show (string.put "rr").length = 5 from rfl,
    show (string.put "w").length = 3 from rfl, show ∀ x, (u64.put x).length = 8 from fun _ => rfl]
  omega

/-- The policy of the node, without an end. -/
def lastingPolicy : ServiceTrustPolicyPayload := { nodePolicy 1 with expiresAtMs := none }

/-- A cache with a signature of some length. -/
def longCache (n : ℕ) : Receiver.PersistedServiceTrustCache where
  schema := Receiver.serviceTrustCacheSchema
  distributorUrl := "http://d"
  etag := none
  snapshot :=
    { policy := lastingPolicy
      authentication := (nodeSnapshot 1 (String.ofList (List.replicate n 'a'))).authentication }

lemma length_put_longCache (n : ℕ) :
    (Receiver.cacheCodec.put (longCache n)).length = 2 * n + 370 := by
  change (string.put Receiver.serviceTrustCacheSchema ++ (string.put "http://d" ++ ([0] ++
    (policyCodec.put lastingPolicy ++
      (string.put ServiceTrustPolicyVersion.v2.authenticationSchema ++
        (string.put signatureAlgorithm ++ (string.put "r" ++
          string.put (String.ofList (List.replicate n 'a'))))))))).length = _
  simp only [length_append, length_put_string]
  have hrest : (string.put Receiver.serviceTrustCacheSchema).length +
      ((string.put "http://d").length + ([0] : List UInt8).length +
        (policyCodec.put lastingPolicy).length +
        (string.put ServiceTrustPolicyVersion.v2.authenticationSchema).length +
        (string.put signatureAlgorithm).length + (string.put "r").length) = 369 := by
    decide +kernel
  omega

lemma validateCommitted_longCommitted (n : ℕ) :
    validateCommitted (longCommitted (n + 1)) = .ok () := by
  have htrim : trim (String.ofList (List.replicate (n + 1) 'a')) = List.replicate (n + 1) 'a' := by
    have hdrop : (List.replicate (n + 1) 'a').dropWhile isWhiteSpace =
        List.replicate (n + 1) 'a' := rfl
    rw [trim, String.toList_ofList, hdrop, reverse_replicate, hdrop, reverse_replicate]
  have hnamed : (!(trim "w").isEmpty &&
      !(trim (String.ofList (List.replicate (n + 1) 'a'))).isEmpty) = true := by
    rw [htrim]
    rfl
  have hcluster : validateControlClusterId "c" = .ok () := by decide +kernel
  have hpolicy : (RoutingPolicy.parse "rr").mapError IoError.invalidData =
      .ok .roundRobin := by decide +kernel
  have hworkers : validateWorkers [] (longCommitted (n + 1)).configuration.workers =
      .ok () :=
    bind_eq_ok_iff.mpr ⟨(), require_eq_ok_iff.mpr hnamed, rfl⟩
  exact bind_eq_ok_iff.mpr ⟨(), hcluster, bind_eq_ok_iff.mpr ⟨(), rfl,
    bind_eq_ok_iff.mpr ⟨.roundRobin, hpolicy, bind_eq_ok_iff.mpr ⟨(), rfl, hworkers⟩⟩⟩⟩

/-- Texts of exactly the bound are saved, and then the files are too large to be loaded. -/
theorem full_size_not_loaded :
    (∃ file error, @Gateway.saveSnapshot persistedCodec.prettyJson (longCommitted 524228)
        ⟨7, none⟩ missingFile = .ok (longSnapshot 524228) file ∧
      @Gateway.loadSnapshot persistedCodec.prettyJson "routing.json" file =
        .error error) ∧
    ∀ s : Receiver.Session Unit, ∃ s' error,
      @Receiver.saveCache Unit Receiver.originParser Receiver.cacheCodec.prettyJson
        (longCache 261959) .saved s = .ok () s' ∧
      @Receiver.loadCache Receiver.originParser Receiver.cacheCodec.prettyJson "cache.json"
        s'.disk none = .error error := by
  constructor
  · have hlength : (persistedCodec.put (longSnapshot 524228)).length =
        maxSnapshotBytes := length_put_longSnapshot 524228
    obtain ⟨error, hload⟩ := @Gateway.loadSnapshot_of_full persistedCodec.prettyJson
      (longSnapshot 524228) "routing.json" hlength
    exact ⟨_, error, @Gateway.saveSnapshot_eq_ok persistedCodec.prettyJson
      (longCommitted 524228) 7 (validateCommitted_longCommitted 524227) hlength.le
      missingFile, hload⟩
  · intro s
    have hlength : (Receiver.cacheCodec.put (longCache 261959)).length =
        Receiver.maxCacheBytes := length_put_longCache 261959
    have hvalid : ∀ n, @Receiver.validateCache Receiver.originParser (longCache n) = .ok () :=
      fun _ => rfl
    obtain ⟨error, hload⟩ := @Receiver.loadCache_of_full Receiver.originParser
      Receiver.cacheCodec.prettyJson (longCache 261959) "cache.json"
      (s.replaceCache (Receiver.cacheCodec.put (longCache 261959) ++ [10])).disk rfl hlength
    exact ⟨_, error, @Receiver.saveCache_eq_ok Unit Receiver.originParser
      Receiver.cacheCodec.prettyJson (longCache 261959) (hvalid _) hlength.le s, hload⟩

theorem save_load_iff_short : ∃ file,
    @Gateway.saveSnapshot persistedCodec.prettyJson (longCommitted 1) ⟨7, none⟩
      missingFile = .ok (longSnapshot 1) file ∧
    @Gateway.loadSnapshot persistedCodec.prettyJson "routing.json" file =
      .ok (longSnapshot 1) := by
  have hlength : (persistedCodec.put (longSnapshot 1)).length < maxSnapshotBytes :=
    (length_put_longSnapshot 1).trans_lt (by decide)
  have hsaved := @Gateway.saveSnapshot_eq_ok persistedCodec.prettyJson (longCommitted 1) 7
    (validateCommitted_longCommitted 0) hlength.le missingFile
  have hload := (@save_load_iff Unit Receiver.originParser persistedCodec.prettyJson
    persistedCodec.lawful_prettyJson Receiver.cacheCodec.prettyJson
    Receiver.cacheCodec.lawful_prettyJson "routing.json").1 _ _ _ _ _ hsaved
  exact ⟨_, hsaved, hload.mpr hlength⟩

end Sample

end InferLab
