import InferLab.BoundedStores
import InferLab.ControlPlane.Model
import InferLab.Gateway.Routing

/-!
# What the control plane accepts and what gateways can apply

A routing configuration is checked when it is written, and again by every gateway that gets it:
before it is believed, when the pool is built, and when it is saved. The later checks follow from
the first one, apart from the size of the file and collisions on the hash ring.
-/

namespace InferLab

open Wire ServiceAuth Worker List Gateway

/-! ## The check of the control plane -/

namespace ControlPlane

/-- What the control plane knows about the workers that it has accepted. -/
structure ValidWorkers (workers : List WorkerConfiguration) : Prop where
  named : ∀ worker ∈ workers, trim worker.id ≠ []
  weighted : ∀ worker ∈ workers, worker.weight ≠ 0
  located : ∀ worker ∈ workers,
    startsWith worker.baseUrl "http://" = true ∨ startsWith worker.baseUrl "https://" = true
  nodup : (workers.map fun worker => trim worker.id).Nodup

lemma of_validateWorkers {workers : List WorkerConfiguration} {identities : List (List Char)}
    (h : validateWorkers identities workers = .ok ()) :
    ValidWorkers workers ∧ ∀ worker ∈ workers, trim worker.id ∉ identities := by
  induction workers generalizing identities with
  | nil => exact ⟨⟨by simp, by simp, by simp, nodup_nil⟩, by simp⟩
  | cons worker workers ih =>
    rw [validateWorkers] at h
    split_ifs at h with hid hseen hweight hurl
    obtain ⟨hvalid, hfresh⟩ := ih h
    refine ⟨⟨?_, ?_, ?_, ?_⟩, ?_⟩
    · rintro other (_ | ⟨_, hmem⟩)
      · exact fun hempty => hid (.inl hempty)
      · exact hvalid.named other hmem
    · rintro other (_ | ⟨_, hmem⟩)
      · exact hweight
      · exact hvalid.weighted other hmem
    · rintro other (_ | ⟨_, hmem⟩)
      · rw [Bool.not_eq_true', Bool.not_eq_false, Bool.or_eq_true] at hurl
        exact hurl
      · exact hvalid.located other hmem
    · rw [map_cons, List.nodup_cons]
      refine ⟨?_, hvalid.nodup⟩
      intro hmem
      obtain ⟨other, hother, heq⟩ := mem_map.mp hmem
      exact hfresh other hother (heq ▸ mem_cons_self)
    · rintro other (_ | ⟨_, hmem⟩)
      · exact hseen
      · exact fun hother => hfresh other hmem (mem_cons_of_mem _ hother)

lemma of_validate {configuration : RoutingConfiguration} (h : configuration.validate = .ok ()) :
    configuration.routingPolicy ∈ policies ∧ configuration.workers ≠ [] ∧
      configuration.workers.length ≤ 100 ∧ ValidWorkers configuration.workers := by
  rw [RoutingConfiguration.validate] at h
  split_ifs at h with hpolicy hcount
  obtain ⟨hnonempty, hmost⟩ := not_or.mp hcount
  exact ⟨hpolicy, hnonempty, by omega, (of_validateWorkers h).1⟩

end ControlPlane

/-! ## The checks of a gateway -/

/-- A text with a character that is not blank is not blank. -/
theorem trim_ne_nil {s : String} {c : Char} (hmem : c ∈ s.toList) (hc : isWhiteSpace c = false) :
    trim s ≠ [] := by
  intro hempty
  rw [trim, reverse_eq_nil_iff, dropWhile_eq_nil_iff] at hempty
  have hnone : s.toList.dropWhile isWhiteSpace = [] := by
    by_contra hsome
    have hpos := length_pos_iff.mpr hsome
    have hfirst := dropWhile_get_zero_not isWhiteSpace s.toList hpos
    exact hfirst (hempty _ (mem_reverse.mpr (get_mem _ _)))
  have hwhite := dropWhile_eq_nil_iff.mp hnone c hmem
  rw [hc] at hwhite
  cases hwhite

lemma trim_url_ne_nil {url : String}
    (h : startsWith url "http://" = true ∨ startsWith url "https://" = true) : trim url ≠ [] := by
  have hmem : 'h' ∈ url.toList := by
    rcases h with h | h
    · exact (List.isPrefixOf_iff_prefix.mp h).subset (by decide)
    · exact (List.isPrefixOf_iff_prefix.mp h).subset (by decide)
  exact trim_ne_nil hmem (by decide)

namespace Gateway

lemma validateWorkers_eq_ok {workers : List StoredWorkerConfiguration} {seen : List String}
    (hnamed : ∀ worker ∈ workers, trim worker.id ≠ [] ∧ trim worker.baseUrl ≠ [])
    (hweighted : ∀ worker ∈ workers, worker.weight ≠ 0)
    (hnodup : (workers.map (·.id)).Nodup) (hfresh : ∀ worker ∈ workers, worker.id ∉ seen) :
    validateWorkers seen workers = .ok () := by
  induction workers generalizing seen with
  | nil => rfl
  | cons worker workers ih =>
    obtain ⟨hid, hurl⟩ := hnamed worker mem_cons_self
    rw [map_cons, List.nodup_cons] at hnodup
    refine bind_eq_ok_iff.mpr ⟨(), require_eq_ok_iff.mpr ?_, bind_eq_ok_iff.mpr
      ⟨(), require_eq_ok_iff.mpr ?_, bind_eq_ok_iff.mpr ⟨(), require_eq_ok_iff.mpr ?_, ?_⟩⟩⟩
    · simp [hid, hurl]
    · simpa using hweighted worker mem_cons_self
    · simpa using hfresh worker mem_cons_self
    · refine ih (fun other hmem => hnamed other (mem_cons_of_mem _ hmem))
        (fun other hmem => hweighted other (mem_cons_of_mem _ hmem)) hnodup.2 ?_
      intro other hmem hseen
      rcases mem_cons.mp hseen with heq | hold
      · exact hnodup.1 (heq ▸ mem_map_of_mem hmem)
      · exact hfresh other (mem_cons_of_mem _ hmem) hold

/-- The policies of the control plane have the same names in the gateway. -/
theorem parse_of_mem_policies {policy : String} (h : policy ∈ ControlPlane.policies) :
    ∃ parsed, RoutingPolicy.parse policy = .ok parsed := by
  have hall : ∀ policy ∈ ControlPlane.policies, (RoutingPolicy.parse policy).isOk = true := by
    decide +kernel
  have hok := hall policy h
  cases hparse : RoutingPolicy.parse policy with
  | ok parsed => exact ⟨parsed, rfl⟩
  | error error =>
    rw [hparse] at hok
    cases hok

lemma toNat_lt_of_isClusterIdChar {c : Char} (h : ControlPlane.isClusterIdChar c = true) :
    c.toNat < 128 := by
  unfold ControlPlane.isClusterIdChar Char.isAlphanum Char.isAlpha Char.isUpper Char.isLower
    Char.isDigit at h
  simp only [Bool.or_eq_true, Bool.and_eq_true, decide_eq_true_eq, beq_iff_eq, ge_iff_le,
    UInt32.le_iff_toNat_le] at h
  have hletters : 'z'.val.toNat < 128 ∧ 'Z'.val.toNat < 128 ∧ '9'.val.toNat < 128 := by decide
  rcases h with (((⟨⟨-, hle⟩ | ⟨-, hle⟩⟩ | ⟨-, hle⟩) | rfl) | rfl) | rfl
  · exact Nat.lt_of_le_of_lt hle hletters.2.1
  · exact Nat.lt_of_le_of_lt hle hletters.1
  · exact Nat.lt_of_le_of_lt hle hletters.2.2
  · decide
  · decide
  · decide

/-- Identifiers have one byte for each character. -/
theorem isIdByte_of_isClusterIdChar {c : Char} (h : ControlPlane.isClusterIdChar c = true) :
    String.utf8EncodeChar c = [c.val.toUInt8] ∧ isIdByte c.val.toUInt8 = true := by
  have hall : ∀ n < 128, ControlPlane.isClusterIdChar (Char.ofNat n) = true →
      String.utf8EncodeChar (Char.ofNat n) = [(Char.ofNat n).val.toUInt8] ∧
        isIdByte (Char.ofNat n).val.toUInt8 = true := by
    decide +kernel
  have hc : Char.ofNat c.toNat = c := Char.ofNat_toNat c
  have := hall c.toNat (toNat_lt_of_isClusterIdChar h)
  rw [hc] at this
  exact this h

lemma length_utf8 (s : String) : (utf8 s).length = s.utf8ByteSize := rfl

/-- Both sides mean the same by a valid cluster. -/
theorem validateControlClusterId_eq_ok {clusterId : String}
    (h : ControlPlane.validateClusterId clusterId = .ok ()) :
    validateControlClusterId clusterId = .ok () := by
  rw [ControlPlane.validateClusterId] at h
  split_ifs at h with hvalid
  obtain ⟨hnonempty, hsize, hchars⟩ := hvalid
  have hbytes : ∀ byte ∈ utf8 clusterId, isIdByte byte = true := by
    rw [← String.ofList_toList (s := clusterId), utf8_ofList]
    intro byte hmem
    obtain ⟨c, hc, hbyte⟩ := mem_flatMap.mp hmem
    obtain ⟨hencoded, hid⟩ := isIdByte_of_isClusterIdChar (all_eq_true.mp hchars c hc)
    rw [hencoded, mem_singleton] at hbyte
    exact hbyte ▸ hid
  have hpos : 1 ≤ (utf8 clusterId).length := by
    rw [length_utf8]
    exact Nat.one_le_iff_ne_zero.mpr fun hzero =>
      hnonempty (String.utf8ByteSize_eq_zero_iff.mp hzero)
  refine require_eq_ok_iff.mpr ?_
  unfold isIdentifier
  simp only [Bool.and_eq_true, decide_eq_true_eq, all_eq_true]
  exact ⟨⟨hpos, (length_utf8 clusterId).le.trans hsize⟩, hbytes⟩

variable {D : Type} [FloatOps D] {workers : List WorkerRegistration} {config : RoutingConfig D}
  {circuitConfig : CircuitBreakerConfig}

/-- When all other checks pass, the pool depends on the ring. -/
theorem fromConfig_of_ring {total : ℕ} (hworkers : checkRegistrations workers = .ok ())
    (htotal : sumWeights 0 workers = .ok total) (hconfig : checkRoutingConfig config = .ok ())
    (hcircuit : circuitConfig.validate = .ok ())
    (hcapacity : workers.length * config.workerConcurrencyLimit ≤ usizeMax)
    {hashRing : ConsistentHashRing}
    (hring : ConsistentHashRing.new (trimmed (workers.map (·.id)))
      config.consistentHashVirtualNodes = .ok hashRing) :
    ∃ pool, WorkerPool.fromConfigWithCircuitBreaker workers config circuitConfig = .ok pool ∧
      pool.workers = workers.map PoolWorker.ofRegistration := by
  unfold WorkerPool.fromConfigWithCircuitBreaker
  split
  case h_1 error hfailed => cases hworkers.symm.trans hfailed
  case h_2 error _ hfailed => cases htotal.symm.trans hfailed
  case h_3 total' _ _ =>
    rw [hconfig, hcircuit]
    simp only [if_neg (Nat.not_lt.mpr hcapacity)]
    split
    case h_1 error hfailed => cases hring.symm.trans hfailed
    case h_2 built _ => exact ⟨_, rfl, rfl⟩

lemma checkRegistrations_eq_ok_iff : checkRegistrations workers = .ok () ↔ workers ≠ [] ∧
    (∀ worker ∈ workers, trim worker.id ≠ [] ∧ trim worker.baseUrl ≠ []) ∧
    (∀ worker ∈ workers, worker.weight ≠ 0) ∧ (trimmed (workers.map (·.id))).Nodup := by
  unfold checkRegistrations
  simp only [bind_eq_ok_iff, require_eq_ok_iff, exists_const, Bool.not_eq_true',
    isEmpty_eq_false_iff, any_eq_false, beq_iff_eq, Bool.or_eq_true, List.isEmpty_iff,
    decide_eq_true_eq, not_or]

/-- No weight is larger than `u32::MAX`, so that few workers never overflow. -/
theorem sumWeights_eq_ok {start : ℕ} (h : start + workers.length * 2 ^ 32 ≤ i64Max) :
    ∃ total, sumWeights start workers = .ok total := by
  induction workers generalizing start with
  | nil => exact ⟨start, rfl⟩
  | cons worker workers ih =>
    rw [length_cons] at h
    have hweight := worker.weight.toNat_lt
    have hrest : start + worker.weight.toNat + workers.length * 2 ^ 32 ≤ i64Max := by omega
    obtain ⟨total, htotal⟩ := ih hrest
    exact ⟨total, bind_eq_ok_iff.mpr
      ⟨(), require_eq_ok_iff.mpr (decide_eq_true (by omega)), htotal⟩⟩

/-- The workers of a configuration, as they are given to the pool. -/
def CommittedRoutingConfiguration.registrations (committed : CommittedRoutingConfiguration) :
    List WorkerRegistration :=
  committed.configuration.workers.map fun worker =>
    { id := worker.id, baseUrl := worker.baseUrl, weight := worker.weight }

lemma committedPoolInput_eq_ok {committed : CommittedRoutingConfiguration}
    {policy : RoutingPolicy}
    (h : RoutingPolicy.parse committed.configuration.routingPolicy = .ok policy) :
    committedPoolInput committed = .ok (committed.registrations, policy) := by
  refine bind_eq_ok_iff.mpr ⟨policy, ?_, rfl⟩
  rw [h]
  rfl

/-- The numbers that all pools of the gateway have in common pass the checks. -/
structure PoolTemplate.Valid (template : PoolTemplate D) : Prop where
  routing : ∀ policy, checkRoutingConfig (template.routingConfig policy) = .ok ()
  circuit : template.circuitBreaker.validate = .ok ()

lemma PoolTemplate.Valid.bounds {template : PoolTemplate D} (h : template.Valid) :
    template.consistentHashVirtualNodes ≠ 0 ∧ template.consistentHashVirtualNodes ≤ 100000 ∧
      template.workerConcurrencyLimit ≤ 100000 := by
  have hrouting := h.routing .roundRobin
  unfold checkRoutingConfig at hrouting
  simp only [bind_eq_ok_iff, require_eq_ok_iff, exists_const, decide_eq_true_eq] at hrouting
  obtain ⟨-, -, hnodes, hmost, -, hlimit⟩ := hrouting
  exact ⟨hnodes, hmost, hlimit⟩

/-- A pool of at most a hundred workers is built if the ring is. -/
theorem buildPool_eq_ok {template : PoolTemplate D} (htemplate : template.Valid)
    (hworkers : checkRegistrations workers = .ok ()) (hcount : workers.length ≤ 100)
    (hapart : ((nodePoints (trimmed (workers.map (·.id)))
      template.consistentHashVirtualNodes).map Prod.fst).Nodup) (policy : RoutingPolicy) :
    ∃ pool, buildPool workers policy template = .ok pool ∧
      pool.workers = workers.map PoolWorker.ofRegistration := by
  obtain ⟨hnodes, hmost, hlimit⟩ := htemplate.bounds
  obtain ⟨total, htotal⟩ : ∃ total, sumWeights 0 workers = .ok total := by
    apply sumWeights_eq_ok
    unfold i64Max
    omega
  have hcapacity : workers.length * template.workerConcurrencyLimit ≤ usizeMax := by
    refine (Nat.mul_le_mul hcount hlimit).trans ?_
    decide
  have hids : trimmed (trimmed (workers.map (·.id))) = trimmed (workers.map (·.id)) :=
    trimmed_trimmed _
  have hring : ConsistentHashRing.new (trimmed (workers.map (·.id)))
      template.consistentHashVirtualNodes =
      .ok (sortedRing (trimmed (workers.map (·.id))) template.consistentHashVirtualNodes) := by
    obtain ⟨hnonempty, hnamed, -, hnodup⟩ := checkRegistrations_eq_ok_iff.mp hworkers
    have hlength : (trimmed (workers.map (·.id))).length = workers.length := by
      rw [trimmed, length_map, length_map]
    refine new_eq_ok_iff.mpr ⟨?_, by rw [hids]⟩
    rw [hids]
    refine ⟨?_, hnodes, ?_, hnodup, ?_, hapart⟩
    · rwa [trimmed, ne_eq, map_eq_nil_iff, map_eq_nil_iff]
    · intro workerId hmem
      obtain ⟨untrimmed, huntrimmed, rfl⟩ := mem_map.mp hmem
      obtain ⟨worker, hworker, rfl⟩ := mem_map.mp huntrimmed
      rw [trim_ofList_trim]
      exact (hnamed worker hworker).1
    · rw [hlength]
      refine (Nat.mul_le_mul hcount hmost).trans ?_
      decide
  obtain ⟨pool, hpool, hpoolWorkers⟩ := fromConfig_of_ring hworkers htotal
    (htemplate.routing policy) htemplate.circuit hcapacity hring
  refine ⟨pool, ?_, hpoolWorkers⟩
  rw [buildPool, hpool]
  rfl

end Gateway

/-! ## What a write leads to -/

namespace ControlPlane

/-- The fields have the types `u64` and `u32` of the source, and all of them are positive. -/
structure CommittedConfiguration.InRange (committed : CommittedConfiguration) : Prop where
  revision_pos : 0 < committed.revision
  term_pos : 0 < committed.term
  revision_lt : committed.revision < 2 ^ 64
  term_lt : committed.term < 2 ^ 64
  weight_lt : ∀ worker ∈ committed.configuration.workers, worker.weight < 2 ^ 32

/-- What a gateway reads in the JSON of a configuration, which has fields of the same names. -/
def CommittedConfiguration.received (committed : CommittedConfiguration)
    (authentication : Option ControlAuth.ControlAuthentication) :
    CommittedRoutingConfiguration where
  clusterId := committed.clusterId
  revision := .ofNat committed.revision
  term := .ofNat committed.term
  configuration :=
    { routingPolicy := committed.configuration.routingPolicy
      workers := committed.configuration.workers.map fun worker =>
        { id := worker.id, baseUrl := worker.baseUrl, weight := .ofNat worker.weight } }
  authentication := authentication

variable {committed : CommittedConfiguration}
  {authentication : Option ControlAuth.ControlAuthentication}

lemma received_ids : (committed.received authentication).configuration.workers.map (·.id) =
    committed.configuration.workers.map (·.id) := by
  rw [CommittedConfiguration.received, map_map]
  rfl

lemma CommittedConfiguration.InRange.weight_ne_zero (hrange : committed.InRange)
    (hvalid : ValidWorkers committed.configuration.workers) :
    ∀ worker ∈ (committed.received authentication).configuration.workers, worker.weight ≠ 0 := by
  intro received hreceived
  obtain ⟨worker, hworker, rfl⟩ := mem_map.mp hreceived
  intro hzero
  have htoNat := congrArg UInt32.toNat hzero
  rw [UInt32.toNat_ofNat_of_lt' (hrange.weight_lt worker hworker)] at htoNat
  exact hvalid.weighted worker hworker htoNat

lemma ValidWorkers.received_ne_nil (hvalid : ValidWorkers committed.configuration.workers) :
    ∀ worker ∈ (committed.received authentication).configuration.workers,
      trim worker.id ≠ [] ∧ trim worker.baseUrl ≠ [] := by
  intro received hreceived
  obtain ⟨worker, hworker, rfl⟩ := mem_map.mp hreceived
  exact ⟨hvalid.named worker hworker, trim_url_ne_nil (hvalid.located worker hworker)⟩

/-- The gateway believes every configuration that the control plane accepts. -/
theorem validateCommitted_received (hcluster : validateClusterId committed.clusterId = .ok ())
    (hvalid : committed.configuration.validate = .ok ()) (hrange : committed.InRange) :
    validateCommitted (committed.received authentication) = .ok () := by
  obtain ⟨hpolicy, hnonempty, -, hworkers⟩ := of_validate hvalid
  obtain ⟨policy, hparse⟩ := parse_of_mem_policies hpolicy
  have hrevision : UInt64.ofNat committed.revision ≠ 0 := by
    intro hzero
    have htoNat := congrArg UInt64.toNat hzero
    rw [UInt64.toNat_ofNat_of_lt' hrange.revision_lt] at htoNat
    exact hrange.revision_pos.ne' htoNat
  have hterm : UInt64.ofNat committed.term ≠ 0 := by
    intro hzero
    have htoNat := congrArg UInt64.toNat hzero
    rw [UInt64.toNat_ofNat_of_lt' hrange.term_lt] at htoNat
    exact hrange.term_pos.ne' htoNat
  have hids : ((committed.received authentication).configuration.workers.map (·.id)).Nodup := by
    apply List.Nodup.of_map trim
    rw [received_ids, map_map]
    exact hworkers.nodup
  refine bind_eq_ok_iff.mpr ⟨(), validateControlClusterId_eq_ok hcluster,
    bind_eq_ok_iff.mpr ⟨(), require_eq_ok_iff.mpr ?_, bind_eq_ok_iff.mpr ⟨policy, ?_,
      bind_eq_ok_iff.mpr ⟨(), require_eq_ok_iff.mpr ?_, ?_⟩⟩⟩⟩
  · simp [CommittedConfiguration.received, hrevision, hterm]
  · rw [CommittedConfiguration.received, hparse]
    rfl
  · simpa [CommittedConfiguration.received] using hnonempty
  · exact validateWorkers_eq_ok hworkers.received_ne_nil
      (hrange.weight_ne_zero hworkers) hids (by simp)

/-- The pool is built too, with the trimmed names, unless two virtual nodes collide. -/
theorem buildPool_received {D : Type} [Worker.FloatOps D] {template : PoolTemplate D}
    (htemplate : template.Valid) (hvalid : committed.configuration.validate = .ok ())
    (hrange : committed.InRange)
    (hapart : ((nodePoints (trimmed (committed.configuration.workers.map (·.id)))
      template.consistentHashVirtualNodes).map Prod.fst).Nodup) :
    ∃ workers policy pool,
      committedPoolInput (committed.received authentication) = .ok (workers, policy) ∧
      buildPool workers policy template = .ok pool ∧
      pool.workers.map (·.id) =
        trimmed (committed.configuration.workers.map (·.id)) := by
  obtain ⟨hpolicy, hnonempty, hcount, hworkers⟩ := of_validate hvalid
  obtain ⟨policy, hparse⟩ := parse_of_mem_policies hpolicy
  let workers := (committed.received authentication).registrations
  have hids : workers.map (·.id) = committed.configuration.workers.map (·.id) :=
    (map_map ..).trans received_ids
  have hcount : workers.length ≤ 100 := by
    rwa [← length_map (·.id), hids, length_map]
  have hchecked : checkRegistrations workers = .ok () := by
    refine checkRegistrations_eq_ok_iff.mpr ⟨?_, ?_, ?_, ?_⟩
    · intro hnil
      rw [hnil, map_nil, eq_comm, map_eq_nil_iff] at hids
      exact hnonempty hids
    · intro worker hworker
      obtain ⟨received, hreceived, rfl⟩ := mem_map.mp hworker
      exact hworkers.received_ne_nil received hreceived
    · intro worker hworker
      obtain ⟨received, hreceived, rfl⟩ := mem_map.mp hworker
      exact hrange.weight_ne_zero hworkers received hreceived
    · have hinjective : Function.Injective String.ofList := fun _ _ => String.ofList_injective
      rw [hids, trimmed, map_map]
      have hnodup := hworkers.nodup.map hinjective
      rwa [map_map] at hnodup
  rw [← hids] at hapart ⊢
  obtain ⟨pool, hpool, hpoolWorkers⟩ :=
    buildPool_eq_ok htemplate hchecked hcount hapart policy
  refine ⟨workers, policy, pool, committedPoolInput_eq_ok hparse, hpool, ?_⟩
  rw [hpoolWorkers, map_map, trimmed, map_map]
  rfl

variable [PrettyJson PersistedRoutingSnapshot]

lemma saveSnapshot_received_iff (hcluster : validateClusterId committed.clusterId = .ok ())
    (hvalid : committed.configuration.validate = .ok ()) (hrange : committed.InRange)
    (savedAtMs : UInt64) (file : SnapshotFile) :
    (∃ snapshot file', saveSnapshot (committed.received authentication) ⟨savedAtMs, none⟩
      file = .ok snapshot file') ↔
      (PrettyJson.toVecPretty (⟨routingSnapshotSchema, savedAtMs,
        committed.received authentication⟩ : PersistedRoutingSnapshot)).length ≤
        maxSnapshotBytes := by
  constructor
  · rintro ⟨snapshot, file', h⟩
    obtain ⟨rfl, hencoded, -⟩ := of_saveSnapshot h
    exact (encodeSnapshot_eq_ok_iff.mp hencoded).2.1
  · intro hsize
    exact ⟨_, _, saveSnapshot_eq_ok
      (validateCommitted_received hcluster hvalid hrange) hsize file⟩

/-- A gateway with a valid template can apply what the control plane has accepted: it believes the
configuration, builds the pool unless two virtual nodes collide, and saves the snapshot if its text
is within the bound of the file, which the control plane does not check. -/
theorem configurations_agree {D : Type} [Worker.FloatOps D] (template : PoolTemplate D)
    (htemplate : template.Valid) (committed : CommittedConfiguration)
    (hcluster : validateClusterId committed.clusterId = .ok ())
    (hvalid : committed.configuration.validate = .ok ()) (hrange : committed.InRange)
    (authentication : Option ControlAuth.ControlAuthentication) :
    validateCommitted (committed.received authentication) = .ok () ∧
    (((nodePoints (trimmed (committed.configuration.workers.map (·.id)))
        template.consistentHashVirtualNodes).map Prod.fst).Nodup →
      ∃ workers policy pool,
        committedPoolInput (committed.received authentication) = .ok (workers, policy) ∧
        buildPool workers policy template = .ok pool ∧
        pool.workers.map (·.id) =
          trimmed (committed.configuration.workers.map (·.id))) ∧
    ∀ savedAtMs file,
      (∃ snapshot file', saveSnapshot (committed.received authentication)
        ⟨savedAtMs, none⟩ file = .ok snapshot file') ↔
      (PrettyJson.toVecPretty (⟨routingSnapshotSchema, savedAtMs,
        committed.received authentication⟩ : PersistedRoutingSnapshot)).length ≤
        maxSnapshotBytes :=
  ⟨validateCommitted_received hcluster hvalid hrange,
    fun hapart => buildPool_received htemplate hvalid hrange hapart,
    saveSnapshot_received_iff hcluster hvalid hrange⟩

end ControlPlane

section Sample

open Codec

lemma length_lt_length_putList {α : Type} (c : Codec α) (l : List α) :
    l.length < (putList c l).length := by
  induction l with
  | nil => exact Nat.one_pos
  | cons a l ih =>
    rw [putList, length_cons, length_cons, length_append]
    omega

def longUrl (n : ℕ) : String := String.ofList ("http://".toList ++ List.replicate n 'a')

lemma toList_longUrl (n : ℕ) : (longUrl n).toList = "http://".toList ++ List.replicate n 'a' :=
  String.toList_ofList

/-- A write of one worker, with a URL of some length. -/
def longWrite (n : ℕ) : ControlPlane.CommittedConfiguration where
  clusterId := "c"
  revision := 1
  term := 1
  configuration := ⟨"round-robin", [⟨"w", longUrl n, 1⟩]⟩
  writer := none

lemma validate_longWrite (n : ℕ) : (longWrite n).configuration.validate = .ok () := by
  have hurl : startsWith (longUrl n) "http://" = true := by
    have hbegins : "http://".toList <+: (longUrl n).toList :=
      ⟨List.replicate n 'a', (toList_longUrl n).symm⟩
    exact isPrefixOf_iff_prefix.mpr hbegins
  have hid : ¬(trim "w" = [] ∨ "w".utf8ByteSize > 100) := by decide +kernel
  have hpolicy : ¬"round-robin" ∉ ControlPlane.policies := by decide +kernel
  have hworkers : ControlPlane.validateWorkers [] [⟨"w", longUrl n, 1⟩] = .ok () := by
    rw [ControlPlane.validateWorkers, if_neg hid, if_neg not_mem_nil, if_neg Nat.one_ne_zero,
      hurl]
    rfl
  have hcount : ¬((longWrite n).configuration.workers = [] ∨
      (longWrite n).configuration.workers.length > 100) := by
    rintro (hempty | hmany)
    · cases hempty
    · exact absurd hmany (by change ¬1 > 100; omega)
  rw [ControlPlane.RoutingConfiguration.validate, longWrite, if_neg hpolicy]
  exact (if_neg hcount).trans hworkers

lemma inRange_longWrite (n : ℕ) : (longWrite n).InRange := by
  refine ⟨Nat.one_pos, Nat.one_pos, ?_, ?_, ?_⟩
  · exact Nat.one_lt_two_pow (by decide)
  · exact Nat.one_lt_two_pow (by decide)
  · intro worker hworker
    rw [mem_singleton.mp hworker]
    exact Nat.one_lt_two_pow (by decide)

lemma lt_length_put_longWrite (n : ℕ) :
    n < (persistedCodec.put
      ⟨routingSnapshotSchema, 7, (longWrite n).received none⟩).length := by
  have hurl : n < (string.put (longUrl n)).length := by
    have hlength : n ≤ (longUrl n).toList.length := by
      rw [toList_longUrl, length_append, length_replicate]
      exact Nat.le_add_left _ _
    exact hlength.trans_lt (length_lt_length_putList char (longUrl n).toList)
  change n < (string.put routingSnapshotSchema ++ (u64.put 7 ++ (string.put "c" ++
    (u64.put 1 ++ (u64.put 1 ++ ((string.put "round-robin" ++ (1 :: ((string.put "w" ++
      (string.put (longUrl n) ++ u64.put (1 : UInt32).toUInt64)) ++ [0]))) ++ [0])))))).length
  simp only [length_append, length_cons]
  omega

/-- The control plane accepts a URL that alone is larger than the file may be. -/
theorem long_url_not_saved :
    ControlPlane.validateClusterId (longWrite 1048576).clusterId = .ok () ∧
    (longWrite 1048576).configuration.validate = .ok () ∧ (longWrite 1048576).InRange ∧
    ∀ file, ¬∃ snapshot file', @Gateway.saveSnapshot persistedCodec.prettyJson
      ((longWrite 1048576).received none) ⟨7, none⟩ file = .ok snapshot file' := by
  have hcluster : ControlPlane.validateClusterId "c" = .ok () := by decide +kernel
  refine ⟨hcluster, validate_longWrite _, inRange_longWrite _, fun file hsaved => ?_⟩
  have hsize := (@ControlPlane.saveSnapshot_received_iff (longWrite 1048576) none
    persistedCodec.prettyJson hcluster (validate_longWrite _) (inRange_longWrite _) 7
    file).mp hsaved
  exact absurd (lt_length_put_longWrite 1048576) (Nat.not_lt.mpr hsize)

/-- Exact numbers for the checks of a template, which use no other function than comparisons. -/
@[reducible]
def exactOps : Worker.FloatOps ℚ where
  ofRat x := x
  sqrt _ := 0
  exp _ := 0
  tanh _ := 0
  negInf := 0
  less x y := x < y
  equal x y := x = y
  isFinite _ := true
  isInf _ := false

def sampleTemplate : PoolTemplate ℚ where
  ewmaAlpha := 1 / 2
  ewmaProbeInterval := 4
  consistentHashVirtualNodes := 2
  workerConcurrencyLimit := 8
  circuitBreaker := ⟨10, 5, 50, 5⟩

lemma valid_sampleTemplate : @Gateway.PoolTemplate.Valid ℚ exactOps sampleTemplate := by
  refine @Gateway.PoolTemplate.Valid.mk ℚ exactOps sampleTemplate ?_ ?_
  · intro policy
    cases policy <;> decide +kernel
  · decide +kernel

theorem configurations_agree_shortUrl :
    ∃ workers policy pool snapshot file,
      committedPoolInput ((longWrite 3).received none) = .ok (workers, policy) ∧
      @Gateway.buildPool ℚ exactOps workers policy sampleTemplate = .ok pool ∧
      pool.workers.map (·.id) = ["w"] ∧
      @Gateway.saveSnapshot persistedCodec.prettyJson ((longWrite 3).received none)
        ⟨7, none⟩ missingFile = .ok snapshot file := by
  obtain ⟨-, hpool, hsaved⟩ := @ControlPlane.configurations_agree persistedCodec.prettyJson
    ℚ exactOps sampleTemplate valid_sampleTemplate (longWrite 3) (by decide +kernel)
    (validate_longWrite 3) (inRange_longWrite 3) none
  obtain ⟨workers, policy, pool, hinput, hbuilt, hids⟩ := hpool (by decide +kernel)
  obtain ⟨snapshot, file, hfile⟩ := (hsaved 7 missingFile).mpr (by decide +kernel)
  exact ⟨workers, policy, pool, snapshot, file, hinput, hbuilt, hids.trans (by decide +kernel),
    hfile⟩

end Sample

end InferLab
