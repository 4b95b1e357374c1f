import InferLab.Primitives
import Mathlib.Data.List.Basic

/-!
# Gateway: token buckets of the public edge

Every credential has a bucket that refills with time and pays for one request a minute's worth of
units. A request that finds too little is told after how many seconds to come again.

Times are nanoseconds since the start. The arithmetic is that of `u128`, whose saturation is never
felt (`refilled_eq`).
-/

namespace InferLab.Gateway

open List

def nanosPerSecond : ℕ := 1000000000

def nanosPerMinute : ℕ := 60 * nanosPerSecond

/-- The largest `u128`. -/
def u128Max : ℕ := 2 ^ 128 - 1

/-- `div_ceil`. -/
def divCeil (a b : ℕ) : ℕ := (a + b - 1) / b

/-- `clamp`. -/
def clamp (value low high : ℕ) : ℕ := min (max value low) high

/-- The limits of `PublicEdgeConfig` on the rate, which its `validate` requires to be positive. -/
structure RateConfig where
  rateRequestsPerMinute : UInt64
  rateBurst : UInt64
  rate_pos : 0 < rateRequestsPerMinute.toNat
  burst_pos : 0 < rateBurst.toNat

/-- What a credential may still spend. -/
structure TokenBucket where
  availableUnits : ℕ
  lastElapsedNanos : ℕ
deriving Repr, DecidableEq

namespace TokenBucket

def full (burst : UInt64) : TokenBucket where
  availableUnits := burst.toNat * nanosPerMinute
  lastElapsedNanos := 0

/-- The units after the refill. -/
def refilled (bucket : TokenBucket) (elapsedNanos : ℕ) (rateRequestsPerMinute burst : UInt64) :
    ℕ :=
  let delta := elapsedNanos - bucket.lastElapsedNanos
  let capacity := burst.toNat * nanosPerMinute
  let refill := min (delta * rateRequestsPerMinute.toNat) u128Max
  min (saturatingAdd u128Max bucket.availableUnits refill) capacity

/-- `Err` has the seconds after which to try again. -/
def tryConsume (bucket : TokenBucket) (elapsedNanos : ℕ) (rateRequestsPerMinute burst : UInt64) :
    Except ℕ Unit × TokenBucket :=
  let elapsedNanos := max elapsedNanos bucket.lastElapsedNanos
  let availableUnits := bucket.refilled elapsedNanos rateRequestsPerMinute burst
  if nanosPerMinute ≤ availableUnits then
    (.ok (), ⟨availableUnits - nanosPerMinute, elapsedNanos⟩)
  else
    let missing := nanosPerMinute - availableUnits
    let waitNanos := divCeil missing rateRequestsPerMinute.toNat
    let retrySeconds := clamp (divCeil waitNanos nanosPerSecond) 1 60
    (.error retrySeconds, ⟨availableUnits, elapsedNanos⟩)

end TokenBucket

/-! ## The public edge -/

/-- A request of the credential in a slot, at a time. -/
structure EdgeCall where
  slot : ℕ
  elapsedNanos : ℕ
deriving Repr, DecidableEq

/-- The buckets of `PublicEdgeController`. -/
abbrev Buckets : Type := List TokenBucket

namespace RateConfig

variable (config : RateConfig)

def newBuckets (credentialSlots : ℕ) : Buckets :=
  List.replicate credentialSlots (.full config.rateBurst)

def tryConsumeAt (buckets : Buckets) (call : EdgeCall) : Except ℕ Unit × Buckets :=
  match buckets[call.slot]? with
  | none => (.error 60, buckets)
  | some bucket =>
    let (result, bucket) := bucket.tryConsume call.elapsedNanos config.rateRequestsPerMinute
      config.rateBurst
    (result, buckets.set call.slot bucket)

/-- The buckets after some calls. -/
def afterCalls (buckets : Buckets) (calls : List EdgeCall) : Buckets :=
  calls.foldl (fun buckets call => (config.tryConsumeAt buckets call).2) buckets

/-- How many of the calls of a slot are accepted. -/
def accepted (slot : ℕ) : Buckets → List EdgeCall → ℕ
  | _, [] => 0
  | buckets, call :: calls =>
    let (result, buckets) := config.tryConsumeAt buckets call
    (if call.slot = slot ∧ result = .ok () then 1 else 0) + accepted slot buckets calls

end RateConfig

/-- The latest time that the bucket of a slot has seen. -/
def latestElapsed (slot : ℕ) (calls : List EdgeCall) : ℕ :=
  ((calls.filter (·.slot = slot)).map (·.elapsedNanos)).foldl max 0

/-! ## One bucket -/

namespace TokenBucket

variable {bucket : TokenBucket} {rate burst : UInt64} {elapsed : ℕ}

lemma capacity_le (burst : UInt64) : burst.toNat * nanosPerMinute ≤ u128Max := by
  have hburst : burst.toNat < 2 ^ 64 := burst.toNat_lt
  unfold nanosPerMinute nanosPerSecond u128Max
  omega

/-- A sum that saturates is more than the capacity anyway. -/
theorem refilled_eq (bucket : TokenBucket) (elapsed : ℕ) (rate burst : UInt64) :
    bucket.refilled elapsed rate burst =
      min (bucket.availableUnits + (elapsed - bucket.lastElapsedNanos) * rate.toNat)
        (burst.toNat * nanosPerMinute) := by
  have hcapacity := capacity_le burst
  unfold refilled saturatingAdd
  dsimp only
  omega

lemma lastElapsedNanos_tryConsume (bucket : TokenBucket) (elapsed : ℕ) (rate burst : UInt64) :
    (bucket.tryConsume elapsed rate burst).2.lastElapsedNanos =
      max elapsed bucket.lastElapsedNanos := by
  unfold tryConsume
  dsimp only
  split <;> rfl

lemma tryConsume_eq_ok_iff : (bucket.tryConsume elapsed rate burst).1 = .ok () ↔
    nanosPerMinute ≤ bucket.refilled (max elapsed bucket.lastElapsedNanos) rate burst := by
  unfold tryConsume
  dsimp only
  split <;> simp_all

/-- A call moves units from the refill to the request, or keeps them all. -/
theorem availableUnits_tryConsume (bucket : TokenBucket) (elapsed : ℕ) (rate burst : UInt64) :
    (bucket.tryConsume elapsed rate burst).2.availableUnits +
        (if (bucket.tryConsume elapsed rate burst).1 = .ok () then nanosPerMinute else 0) =
      bucket.refilled (max elapsed bucket.lastElapsedNanos) rate burst := by
  unfold tryConsume
  dsimp only
  split
  · rename_i henough
    rw [if_pos rfl]
    exact Nat.sub_add_cancel henough
  · rw [if_neg (by simp)]
    rfl

lemma divCeil_le_iff {a b c : ℕ} (hb : 0 < b) : divCeil a b ≤ c ↔ a ≤ c * b := by
  unfold divCeil
  rw [← Nat.lt_succ_iff, Nat.div_lt_iff_lt_mul hb, Nat.succ_mul]
  omega

/-- A request that is refused is told the number of seconds for which it has to wait. Neither end
of the clamp changes it. -/
theorem tryConsume_retry (hrate : 0 < rate.toNat) (hburst : 0 < burst.toNat) {retrySeconds : ℕ}
    (h : (bucket.tryConsume elapsed rate burst).1 = .error retrySeconds) :
    1 ≤ retrySeconds ∧ ∀ seconds, ((bucket.tryConsume elapsed rate burst).2.tryConsume
      (max elapsed bucket.lastElapsedNanos + seconds * nanosPerSecond) rate burst).1 = .ok () ↔
        retrySeconds ≤ seconds := by
  have hsecond : 0 < nanosPerSecond := by decide
  unfold tryConsume at h
  dsimp only at h
  split at h
  · cases h
  · rename_i hfew
    set available := bucket.refilled (max elapsed bucket.lastElapsedNanos) rate burst
      with havailable
    set missing := nanosPerMinute - available with hmissing
    set wait := divCeil (divCeil missing rate.toNat) nanosPerSecond with hwait
    have hwait_le : ∀ seconds, wait ≤ seconds ↔ missing ≤ seconds * nanosPerSecond * rate.toNat :=
      fun seconds => by rw [hwait, divCeil_le_iff hsecond, divCeil_le_iff hrate]
    have hlow : 1 ≤ wait := by
      by_contra hzero
      have := (hwait_le 0).mp (by omega)
      omega
    have hhigh : wait ≤ 60 := by
      rw [hwait_le]
      have hminute : missing ≤ 60 * nanosPerSecond := by
        rw [hmissing, nanosPerMinute]
        exact Nat.sub_le _ _
      exact hminute.trans (Nat.le_mul_of_pos_right _ hrate)
    have hretry : retrySeconds = wait := by
      have hclamp : clamp wait 1 60 = wait := by
        unfold clamp
        omega
      rw [← Except.error.inj h, hclamp]
    have hafter : (bucket.tryConsume elapsed rate burst).2 =
        ⟨available, max elapsed bucket.lastElapsedNanos⟩ := by
      unfold tryConsume
      exact congrArg Prod.snd (if_neg hfew)
    refine ⟨by omega, fun seconds => ?_⟩
    rw [hretry, hwait_le, hafter, tryConsume_eq_ok_iff, refilled_eq]
    dsimp only
    have hcapacity : nanosPerMinute ≤ burst.toNat * nanosPerMinute :=
      Nat.le_mul_of_pos_left _ hburst
    have hdelta : max (max elapsed bucket.lastElapsedNanos + seconds * nanosPerSecond)
        (max elapsed bucket.lastElapsedNanos) - max elapsed bucket.lastElapsedNanos =
          seconds * nanosPerSecond := by
      rw [Nat.max_eq_left (Nat.le_add_right _ _), Nat.add_sub_cancel_left]
    rw [hdelta, Nat.le_min, and_iff_left hcapacity, hmissing, Nat.sub_le_iff_le_add']

end TokenBucket

/-! ## Runs of the edge -/

namespace RateConfig

variable (config : RateConfig) {buckets : Buckets} {bucket : TokenBucket} {slot : ℕ}

lemma afterCalls_cons (call : EdgeCall) (calls : List EdgeCall) :
    config.afterCalls buckets (call :: calls) =
      config.afterCalls (config.tryConsumeAt buckets call).2 calls :=
  rfl

lemma afterCalls_append (calls later : List EdgeCall) :
    config.afterCalls buckets (calls ++ later) =
      config.afterCalls (config.afterCalls buckets calls) later :=
  foldl_append

/-- A call on another slot leaves the bucket. -/
theorem tryConsumeAt_of_ne {call : EdgeCall} (h : call.slot ≠ slot) :
    (config.tryConsumeAt buckets call).2[slot]? = buckets[slot]? := by
  unfold tryConsumeAt
  split
  · rfl
  · dsimp only
    rw [List.getElem?_set_ne h]

section

variable (hbucket : buckets[slot]? = some bucket)
include hbucket

lemma tryConsumeAt_of_eq (call : EdgeCall) (hslot : call.slot = slot) :
    (config.tryConsumeAt buckets call).1 = (bucket.tryConsume call.elapsedNanos
        config.rateRequestsPerMinute config.rateBurst).1 ∧
      (config.tryConsumeAt buckets call).2[slot]? = some (bucket.tryConsume call.elapsedNanos
        config.rateRequestsPerMinute config.rateBurst).2 := by
  subst hslot
  unfold tryConsumeAt
  rw [hbucket]
  refine ⟨rfl, ?_⟩
  dsimp only
  rw [List.getElem?_set_self (List.getElem?_eq_some_iff.mp hbucket).1]

/-- An accepted request has been paid for. -/
theorem accepted_cons (call : EdgeCall) (hslot : call.slot = slot) (calls : List EdgeCall) :
    config.accepted slot buckets (call :: calls) * nanosPerMinute =
      (if (bucket.tryConsume call.elapsedNanos config.rateRequestsPerMinute
        config.rateBurst).1 = .ok () then nanosPerMinute else 0) +
      config.accepted slot (config.tryConsumeAt buckets call).2 calls * nanosPerMinute := by
  rw [accepted]
  dsimp only
  rw [(config.tryConsumeAt_of_eq hbucket call hslot).1, Nat.add_mul]
  simp [hslot]

/-- The units of a bucket and those that it has paid out are covered by what it had and by its
refills. -/
theorem accepted_le (calls : List EdgeCall) :
    ∃ after, (config.afterCalls buckets calls)[slot]? = some after ∧
      after.lastElapsedNanos = ((calls.filter (·.slot = slot)).map (·.elapsedNanos)).foldl max
        bucket.lastElapsedNanos ∧
      bucket.lastElapsedNanos ≤ after.lastElapsedNanos ∧
      after.availableUnits + config.accepted slot buckets calls * nanosPerMinute ≤
        bucket.availableUnits + (after.lastElapsedNanos - bucket.lastElapsedNanos) *
          config.rateRequestsPerMinute.toNat := by
  induction calls generalizing buckets bucket with
  | nil => exact ⟨bucket, hbucket, rfl, Nat.le_refl _, by simp [accepted]⟩
  | cons call calls ih =>
    rw [afterCalls_cons]
    by_cases hslot : call.slot = slot
    · obtain ⟨-, hnext⟩ := config.tryConsumeAt_of_eq hbucket call hslot
      obtain ⟨after, hafter, hlast, hle, hunits⟩ := ih hnext
      rw [TokenBucket.lastElapsedNanos_tryConsume] at hlast hle hunits
      have hpaid := bucket.availableUnits_tryConsume call.elapsedNanos
        config.rateRequestsPerMinute config.rateBurst
      rw [TokenBucket.refilled_eq] at hpaid
      refine ⟨after, hafter, ?_, by omega, ?_⟩
      · rw [hlast, filter_cons_of_pos (by simpa using hslot), map_cons, foldl_cons,
          Nat.max_comm]
      · have hsplit : (after.lastElapsedNanos - bucket.lastElapsedNanos) *
            config.rateRequestsPerMinute.toNat =
            (after.lastElapsedNanos - max call.elapsedNanos bucket.lastElapsedNanos) *
              config.rateRequestsPerMinute.toNat +
            (max call.elapsedNanos bucket.lastElapsedNanos - bucket.lastElapsedNanos) *
              config.rateRequestsPerMinute.toNat := by
          rw [← Nat.add_mul]
          congr 1
          omega
        rw [config.accepted_cons hbucket call hslot, hsplit]
        omega
    · obtain ⟨after, hafter, hlast, hle, hunits⟩ :=
        ih ((config.tryConsumeAt_of_ne hslot).trans hbucket)
      refine ⟨after, hafter, ?_, hle, ?_⟩
      · rw [hlast, filter_cons_of_neg (by simpa using hslot)]
      · rw [accepted]
        simpa [hslot] using hunits

end

lemma latestElapsed_append (slot : ℕ) (calls later : List EdgeCall) :
    latestElapsed slot (calls ++ later) = ((later.filter (·.slot = slot)).map
      (·.elapsedNanos)).foldl max (latestElapsed slot calls) := by
  unfold latestElapsed
  rw [filter_append, map_append, foldl_append]

/-- The buckets after some calls to a new controller. -/
def reached (credentialSlots : ℕ) (calls : List EdgeCall) : Buckets :=
  config.afterCalls (config.newBuckets credentialSlots) calls

lemma reached_bucket {credentialSlots : ℕ} (hslot : slot < credentialSlots)
    (calls : List EdgeCall) :
    ∃ bucket, (config.reached credentialSlots calls)[slot]? = some bucket ∧
      bucket.lastElapsedNanos = latestElapsed slot calls := by
  have hfull : (config.newBuckets credentialSlots)[slot]? = some (.full config.rateBurst) := by
    rw [newBuckets, List.getElem?_replicate, if_pos hslot]
  obtain ⟨bucket, hbucket, hlast, -⟩ := config.accepted_le hfull calls
  exact ⟨bucket, hbucket, hlast⟩

lemma lastElapsedNanos_next {calls : List EdgeCall}
    (hlast : bucket.lastElapsedNanos = latestElapsed slot calls)
    (elapsed : ℕ) : max elapsed bucket.lastElapsedNanos =
      latestElapsed slot (calls ++ [⟨slot, elapsed⟩]) := by
  rw [latestElapsed_append, hlast, Nat.max_comm]
  simp

/-- From any call on, a bucket accepts no more than its burst and what the rate allows for the time
since that call. -/
theorem accepted_window_le {credentialSlots : ℕ} (hslot : slot < credentialSlots)
    (calls : List EdgeCall) (first : ℕ) (window : List EdgeCall) :
    config.accepted slot (config.reached credentialSlots calls) (⟨slot, first⟩ :: window) *
        nanosPerMinute ≤ config.rateBurst.toNat * nanosPerMinute +
      config.rateRequestsPerMinute.toNat * (latestElapsed slot (calls ++ ⟨slot, first⟩ :: window) -
        latestElapsed slot (calls ++ [⟨slot, first⟩])) := by
  obtain ⟨bucket, hbucket, hlast⟩ := config.reached_bucket hslot calls
  obtain ⟨-, hnext⟩ := config.tryConsumeAt_of_eq hbucket ⟨slot, first⟩ rfl
  obtain ⟨after, -, hafter, -, hunits⟩ := config.accepted_le hnext window
  have hpaid := bucket.availableUnits_tryConsume first config.rateRequestsPerMinute
    config.rateBurst
  have hcapacity : bucket.refilled (max first bucket.lastElapsedNanos)
      config.rateRequestsPerMinute config.rateBurst ≤ config.rateBurst.toNat * nanosPerMinute :=
    Nat.min_le_right _ _
  rw [TokenBucket.lastElapsedNanos_tryConsume, lastElapsedNanos_next hlast] at hafter hunits
  have hend : latestElapsed slot (calls ++ ⟨slot, first⟩ :: window) = after.lastElapsedNanos := by
    rw [hafter, ← latestElapsed_append, append_assoc]
    rfl
  rw [config.accepted_cons hbucket ⟨slot, first⟩ rfl, hend,
    Nat.mul_comm config.rateRequestsPerMinute.toNat]
  dsimp only at hunits ⊢
  omega

/-- Calls on the other slots do not touch a bucket. -/
theorem afterCalls_others (buckets : Buckets) {others : List EdgeCall}
    (h : ∀ call ∈ others, call.slot ≠ slot) :
    (config.afterCalls buckets others)[slot]? = buckets[slot]? := by
  induction others generalizing buckets with
  | nil => rfl
  | cons call others ih =>
    rw [afterCalls_cons, ih _ fun other hmem => h other (mem_cons_of_mem call hmem),
      config.tryConsumeAt_of_ne (h call mem_cons_self)]

/-- In every run, what one credential gets accepted from one of its calls to another is within its
burst and the rate for the time between; and a refused call is told the least number of seconds
after which the bucket accepts again. Times do not go back: the time of a call is the latest that
its bucket has seen. -/
theorem token_bucket_bounds (credentialSlots slot : ℕ) (hslot : slot < credentialSlots)
    (calls : List EdgeCall) :
    (∀ first window,
      config.accepted slot (config.reached credentialSlots calls) (⟨slot, first⟩ :: window) *
          nanosPerMinute ≤ config.rateBurst.toNat * nanosPerMinute +
        config.rateRequestsPerMinute.toNat *
          (latestElapsed slot (calls ++ ⟨slot, first⟩ :: window) -
            latestElapsed slot (calls ++ [⟨slot, first⟩]))) ∧
    ∀ elapsed retrySeconds, (config.tryConsumeAt (config.reached credentialSlots calls)
        ⟨slot, elapsed⟩).1 = .error retrySeconds →
      1 ≤ retrySeconds ∧ ∀ others, (∀ call ∈ others, call.slot ≠ slot) → ∀ seconds,
        ((config.tryConsumeAt
          (config.afterCalls (config.reached credentialSlots (calls ++ [⟨slot, elapsed⟩])) others)
          ⟨slot, latestElapsed slot (calls ++ [⟨slot, elapsed⟩]) +
            seconds * nanosPerSecond⟩).1 = .ok () ↔ retrySeconds ≤ seconds) := by
  refine ⟨config.accepted_window_le hslot calls, ?_⟩
  intro elapsed retrySeconds hrefused
  obtain ⟨bucket, hbucket, hlast⟩ := config.reached_bucket hslot calls
  obtain ⟨hresult, hnext⟩ := config.tryConsumeAt_of_eq hbucket ⟨slot, elapsed⟩ rfl
  rw [hresult] at hrefused
  obtain ⟨hpositive, hretry⟩ := TokenBucket.tryConsume_retry config.rate_pos config.burst_pos
    hrefused
  refine ⟨hpositive, ?_⟩
  intro others hothers seconds
  have hlater : (config.afterCalls (config.reached credentialSlots
      (calls ++ [⟨slot, elapsed⟩])) others)[slot]? = some (bucket.tryConsume elapsed
        config.rateRequestsPerMinute config.rateBurst).2 := by
    rw [config.afterCalls_others _ hothers, reached, config.afterCalls_append]
    exact hnext
  rw [(config.tryConsumeAt_of_eq hlater _ rfl).1, ← lastElapsedNanos_next hlast]
  exact hretry seconds

/-- One request a second, and two at once. -/
def burstOfTwo : RateConfig := ⟨60, 2, by decide, by decide⟩

/-- Of three calls at the same time the third is refused, for one second. -/
theorem token_bucket_bounds_burstOfTwo :
    burstOfTwo.accepted 0 (burstOfTwo.reached 1 []) [⟨0, 0⟩, ⟨0, 0⟩, ⟨0, 0⟩] * nanosPerMinute ≤
      2 * nanosPerMinute ∧
    (burstOfTwo.tryConsumeAt (burstOfTwo.reached 1 [⟨0, 0⟩, ⟨0, 0⟩]) ⟨0, 0⟩).1 = .error 1 ∧
    (burstOfTwo.tryConsumeAt (burstOfTwo.reached 1 [⟨0, 0⟩, ⟨0, 0⟩, ⟨0, 0⟩])
      ⟨0, nanosPerSecond⟩).1 = .ok () := by
  have hrefused : (burstOfTwo.tryConsumeAt (burstOfTwo.reached 1 [⟨0, 0⟩, ⟨0, 0⟩]) ⟨0, 0⟩).1 =
      .error 1 := by decide +kernel
  refine ⟨?_, hrefused, ?_⟩
  · exact (token_bucket_bounds burstOfTwo 1 0 (by decide) []).1 0 [⟨0, 0⟩, ⟨0, 0⟩]
  · obtain ⟨-, hretry⟩ := (token_bucket_bounds burstOfTwo 1 0 (by decide)
      [⟨0, 0⟩, ⟨0, 0⟩]).2 0 1 hrefused
    have htime : latestElapsed 0 ([⟨0, 0⟩, ⟨0, 0⟩] ++ [⟨0, 0⟩]) + 1 * nanosPerSecond =
        nanosPerSecond := by decide +kernel
    have haccepted := (hretry [] (by simp) 1).mpr (Nat.le_refl 1)
    rwa [htime, afterCalls, foldl_nil] at haccepted

end RateConfig

end InferLab.Gateway
