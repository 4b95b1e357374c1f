import InferLab.Gateway.Selection
import InferLab.SmoothWeights
import Mathlib.Algebra.BigOperators.Fin
import Mathlib.Algebra.Order.Field.Rat
import Mathlib.Algebra.Order.Field.Basic
import Mathlib.Tactic.NormNum

/-!
# Smooth weighted round-robin

The scores of a pool change in the calls of `try_choose_weighted_round_robin` only. A run is a list
of such calls, each with whatever the call finds besides the scores: other selections, ended leases
and reports to the circuits in between may have left any counters and any circuits. As long as no
score leaves `i64`, the scores are the balances of `SmoothWeights`.
-/

namespace InferLab.Gateway

open SmoothWeights List Finset Option

variable {D : Type} (pool : WorkerPool D)

/-! ## Runs -/

/-- What a call finds besides the scores. -/
structure WeightedCall where
  state : PoolState D pool.size
  clock : ℕ → ℕ

/-- The scores and choices of some calls. -/
structure WeightedRun where
  scores : Fin pool.size → Int64
  /-- The worker chosen in every call, if one was. -/
  chosen : List (Option (Fin pool.size))

variable {pool}

/-- The state in which a call starts. -/
def WeightedCall.start (call : WeightedCall pool) (scores : Fin pool.size → Int64) :
    PoolState D pool.size :=
  { call.state with workers := fun index =>
      { call.state.workers index with smoothCurrent := scores index } }

def WeightedRun.step (run : WeightedRun pool) (call : WeightedCall pool) : WeightedRun pool :=
  let (answer, state) := pool.tryChooseWeightedRoundRobin call.clock (call.start run.scores)
  { scores := fun index => (state.workers index).smoothCurrent
    chosen := run.chosen ++ [answer.map (·.worker)] }

def weightedRun (calls : List (WeightedCall pool)) : WeightedRun pool :=
  calls.foldl WeightedRun.step { scores := fun _ => 0, chosen := [] }

/-- Every circuit grants an attempt, whenever in the call it is asked. -/
def WeightedCall.AllAccept (call : WeightedCall pool) : Prop :=
  ∀ index turn, (call.state.answer call.clock index turn).isSome

lemma weightedRun_append_singleton (calls : List (WeightedCall pool)) (call : WeightedCall pool) :
    weightedRun (calls ++ [call]) = (weightedRun calls).step call := by
  rw [weightedRun, foldl_append]
  rfl

lemma length_chosen (calls : List (WeightedCall pool)) :
    (weightedRun calls).chosen.length = calls.length := by
  induction calls using List.reverseRecOn with
  | nil => rfl
  | append_singleton calls call ih =>
    rw [weightedRun_append_singleton, WeightedRun.step]
    simp [ih]

/-! ## One call -/

lemma total_weight (pool : WorkerPool D) : total pool.weight = pool.totalWeight.toInt := by
  rw [pool.totalWeight_eq, total]
  have hsum : (pool.workers.map (·.weight.toNat)).sum = ∑ index, pool.weight index :=
    (Fin.sum_univ_fun_getElem pool.workers (·.weight.toNat)).symm
  rw [hsum]
  push_cast
  rfl

/-- Integers in the range of `i64` are added without overflow. -/
theorem toInt_add_of_fits {a b : Int64} (hlow : -2 ^ 63 ≤ a.toInt + b.toInt)
    (hhigh : a.toInt + b.toInt < 2 ^ 63) : (a + b).toInt = a.toInt + b.toInt := by
  rw [Int64.toInt_add]
  exact Int.bmod_eq_of_le (by omega) (by omega)

lemma toInt_sub_of_fits {a b : Int64} (hlow : -2 ^ 63 ≤ a.toInt - b.toInt)
    (hhigh : a.toInt - b.toInt < 2 ^ 63) : (a - b).toInt = a.toInt - b.toInt := by
  rw [Int64.toInt_sub]
  exact Int.bmod_eq_of_le (by omega) (by omega)

/-- The worker that a call chooses. -/
def WeightedRun.choice (run : WeightedRun pool) (call : WeightedCall pool) :
    Option (Fin pool.size) :=
  (pool.tryChooseWeightedRoundRobin call.clock (call.start run.scores)).1.map (·.worker)

lemma step_chosen (run : WeightedRun pool) (call : WeightedCall pool) :
    (run.step call).chosen = run.chosen ++ [run.choice call] := rfl

/-- The score with which a worker takes part in the next call. -/
def WeightedRun.entitlement (run : WeightedRun pool) (index : Fin pool.size) : Int64 :=
  run.scores index + Int64.ofNat (pool.weight index)

section

variable (run : WeightedRun pool)

lemma step_scores (call : WeightedCall pool) (index : Fin pool.size) :
    (run.step call).scores index =
      if run.choice call = some index then run.entitlement index - pool.totalWeight
      else run.entitlement index :=
  pool.tryChooseWeightedRoundRobin_smoothCurrent call.clock (call.start run.scores) index

/-- The candidates of a call come in descending order of their entitlements. -/
theorem weightedCandidates_sorted (call : WeightedCall pool) :
    (pool.weightedCandidates (call.start run.scores)).Pairwise fun i j =>
      run.entitlement j ≤ run.entitlement i := by
  have htotal : Std.Total fun a b : Fin pool.size × Int64 => b.2 ≤ a.2 :=
    ⟨fun a b => Int64.le_total b.2 a.2⟩
  have htrans : IsTrans (Fin pool.size × Int64) fun a b => b.2 ≤ a.2 :=
    ⟨fun _ _ _ hab hbc => Int64.le_trans hbc hab⟩
  have hentitled : ∀ candidate ∈ pool.sortByScore (pool.withWeights (call.start run.scores)).1,
      candidate.2 = run.entitlement candidate.1 := by
    intro candidate hmem
    rw [(pool.sortByScore_perm _).mem_iff, pool.withWeights_candidates] at hmem
    obtain ⟨index, -, rfl⟩ := mem_map.mp hmem
    rfl
  have hsorted : (pool.sortByScore (pool.withWeights (call.start run.scores)).1).Pairwise
      fun a b => b.2 ≤ a.2 := pairwise_insertionSort _ _
  rw [WorkerPool.weightedCandidates, pairwise_map]
  refine hsorted.imp_of_mem ?_
  intro a b ha hb hle
  rwa [← hentitled a ha, ← hentitled b hb]

/-- Who is chosen has been granted an attempt, and everyone entitled to more has refused. If no
one is chosen, all have refused. -/
theorem choice_spec (call : WeightedCall pool) :
    (∀ index, run.choice call = some index →
      (∃ turn, (call.state.answer call.clock index turn).isSome) ∧
      ∀ other, run.entitlement index < run.entitlement other →
        ∃ turn, call.state.answer call.clock other turn = none) ∧
    (run.choice call = none → ∀ index, ∃ turn, call.state.answer call.clock index turn = none) := by
  obtain ⟨refusals, h⟩ := pool.tryChooseWeightedRoundRobin_selects call.clock
    (call.start run.scores)
  have hturn : ∀ index, ∃ turn : ℕ,
      (pool.weightedCandidates (call.start run.scores))[turn]? = some index := by
    intro index
    exact mem_iff_getElem?.mp
      ((pool.weightedCandidates_perm _).mem_iff.mpr (mem_finRange index))
  constructor
  · intro index hchoice
    obtain ⟨lease, hlease, rfl⟩ := map_eq_some_iff.mp hchoice
    obtain ⟨hworker, hgranted⟩ := h.granted lease hlease
    refine ⟨⟨refusals, isSome_iff_exists.mpr ⟨_, hgranted⟩⟩, ?_⟩
    intro other hmore
    obtain ⟨turn, hother⟩ := hturn other
    refine ⟨turn, h.refused turn ?_ other hother⟩
    -- otherwise the other worker would come later in the order
    by_contra hlater
    obtain ⟨hlt, hget⟩ := List.getElem?_eq_some_iff.mp hworker
    obtain ⟨hlt', hget'⟩ := List.getElem?_eq_some_iff.mp hother
    rcases Nat.lt_or_eq_of_le (Nat.le_of_not_lt hlater) with hafter | rfl
    · have hle := pairwise_iff_getElem.mp (weightedCandidates_sorted run call) refusals turn
        hlt hlt' hafter
      rw [hget, hget'] at hle
      exact Int64.not_lt.mpr hle hmore
    · obtain rfl := some.inj (hworker.symm.trans hother)
      exact Int64.lt_irrefl hmore
  · intro hnone index
    obtain ⟨turn, hindex⟩ := hturn index
    refine ⟨turn, h.refused turn ?_ index hindex⟩
    rw [h.exhausted (map_eq_none_iff.mp hnone)]
    exact (List.getElem?_eq_some_iff.mp hindex).1

lemma choice_of_allAccept {call : WeightedCall pool} (haccept : call.AllAccept) :
    ∃ index, run.choice call = some index ∧
      ∀ other, run.entitlement other ≤ run.entitlement index := by
  have hrefused : ∀ index, ¬ ∃ turn, call.state.answer call.clock index turn = none := by
    rintro index ⟨turn, hnone⟩
    have := haccept index turn
    rw [hnone] at this
    cases this
  obtain ⟨hsome, hnone⟩ := choice_spec run call
  cases hchoice : run.choice call with
  | none => exact absurd (hnone hchoice ⟨0, pool.size_pos⟩) (hrefused _)
  | some index =>
    refine ⟨index, rfl, fun other => Int64.not_lt.mp fun hmore => ?_⟩
    exact hrefused other ((hsome index hchoice).2 other hmore)

end

/-! ## Scores are balances -/

/-- No score has overflowed. -/
def WeightedRun.Exact (run : WeightedRun pool) : Prop :=
  ∀ index, (run.scores index).toInt = balance pool.weight run.chosen index

/-- No score overflows in the next call. -/
def WeightedRun.Fits (run : WeightedRun pool) : Prop :=
  ∀ index, balance pool.weight run.chosen index + pool.weight index < 2 ^ 63 ∧
    -2 ^ 63 ≤ balance pool.weight run.chosen index + pool.weight index - total pool.weight

lemma toInt_ofNat_weight (index : Fin pool.size) :
    (Int64.ofNat (pool.weight index)).toInt = pool.weight index := by
  apply Int64.toInt_ofNat_of_lt
  have hlt : pool.weight index < 2 ^ 32 := UInt32.toNat_lt _
  omega

variable {run : WeightedRun pool}

lemma toInt_entitlement (hexact : run.Exact) (hfits : run.Fits) (index : Fin pool.size) :
    (run.entitlement index).toInt =
      balance pool.weight run.chosen index + pool.weight index := by
  obtain ⟨hhigh, hlow⟩ := hfits index
  have htotal := total_nonneg pool.weight
  unfold WeightedRun.entitlement
  rw [toInt_add_of_fits, hexact index, toInt_ofNat_weight]
  · rw [hexact index, toInt_ofNat_weight]
    omega
  · rw [hexact index, toInt_ofNat_weight]
    omega

lemma WeightedRun.Exact.step (hexact : run.Exact) (hfits : run.Fits) (call : WeightedCall pool) :
    (run.step call).Exact := by
  intro index
  have hentitled := toInt_entitlement hexact hfits index
  obtain ⟨hhigh, hlow⟩ := hfits index
  have htotal := total_nonneg pool.weight
  rw [step_scores, step_chosen, balance_append_singleton]
  by_cases hchoice : run.choice call = some index
  · rw [if_pos hchoice, if_pos hchoice, toInt_sub_of_fits, hentitled, total_weight]
    · rw [hentitled, ← total_weight]
      omega
    · rw [hentitled, ← total_weight]
      omega
  · rw [if_neg hchoice, if_neg hchoice, hentitled]
    omega

/-- When all circuits accept, one of the richest is chosen. -/
theorem greedy_step {exceptions : ℕ} (hexact : run.Exact) (hfits : run.Fits)
    (hgreedy : Greedy pool.weight exceptions run.chosen) {call : WeightedCall pool}
    (haccept : call.AllAccept) : Greedy pool.weight exceptions (run.step call).chosen := by
  obtain ⟨index, hchoice, hrichest⟩ := choice_of_allAccept run haccept
  rw [step_chosen, hchoice]
  refine hgreedy.choose fun other => ?_
  have hle := Int64.le_iff_toInt_le.mp (hrichest other)
  rwa [toInt_entitlement hexact hfits, toInt_entitlement hexact hfits] at hle

lemma weight_pos (index : Fin pool.size) : 0 < pool.weight index :=
  pool.weight_pos _ (get_mem _ _)

/-- A run with few enough exceptions has room for one more call, whatever the call does. -/
theorem fits_of_greedy {exceptions : ℕ}
    (hroom : pool.size * (exceptions + 2) * total pool.weight < 2 ^ 63)
    (hgreedy : Greedy pool.weight exceptions run.chosen) : run.Fits := by
  intro index
  have hlow := hgreedy.neg_total_lt weight_pos index
  have hhigh := hgreedy.balance_le weight_pos index
  rw [Fintype.card_fin] at hhigh
  have hweight := weight_le_total pool.weight index
  have hnonneg := total_nonneg pool.weight
  have hworkers : 0 ≤ (pool.size : ℤ) * total pool.weight := mul_nonneg (by positivity) hnonneg
  have hone : (1 : ℤ) ≤ pool.size := by exact_mod_cast pool.size_pos
  have hdebt : 1 * ((exceptions + 2) * total pool.weight) ≤
      pool.size * ((exceptions + 2) * total pool.weight) :=
    mul_le_mul_of_nonneg_right hone (mul_nonneg (by positivity) hnonneg)
  constructor
  · linarith
  · have : (0 : ℤ) ≤ pool.weight index := Int.natCast_nonneg _
    linarith

open Classical in
/-- The number of calls in which some circuit may refuse. -/
noncomputable def refusals (calls : List (WeightedCall pool)) : ℕ :=
  calls.countP fun call => ¬call.AllAccept

lemma refusals_append (calls more : List (WeightedCall pool)) :
    refusals (calls ++ more) = refusals calls + refusals more :=
  countP_append

lemma refusals_eq_zero {calls : List (WeightedCall pool)}
    (haccept : ∀ call ∈ calls, call.AllAccept) : refusals calls = 0 := by
  refine countP_eq_zero.mpr fun call hmem => ?_
  simpa using haccept call hmem

/-- The scores are exact and the choices greedy, apart from the calls with a refusal, as long as
these are too few for a score to leave `i64`. -/
theorem weightedRun_greedy (calls : List (WeightedCall pool))
    (hroom : pool.size * (refusals calls + 2) * total pool.weight < 2 ^ 63) :
    (weightedRun calls).Exact ∧
      Greedy pool.weight (refusals calls) (weightedRun calls).chosen := by
  induction calls using List.reverseRecOn with
  | nil =>
    refine ⟨fun index => ?_, .nil⟩
    rw [weightedRun, foldl_nil, balance_nil]
    rfl
  | append_singleton calls call ih =>
    have hworkers : 0 ≤ (pool.size : ℤ) * total pool.weight :=
      mul_nonneg (by positivity) (total_nonneg pool.weight)
    have hmore := mul_nonneg (Int.natCast_nonneg (refusals [call])) hworkers
    have hbefore : pool.size * (refusals calls + 2) * total pool.weight < 2 ^ 63 := by
      rw [refusals_append] at hroom
      push_cast at hroom
      linarith
    obtain ⟨hexact, hgreedy⟩ := ih hbefore
    have hfits := fits_of_greedy hbefore hgreedy
    rw [weightedRun_append_singleton, refusals_append]
    refine ⟨hexact.step hfits call, ?_⟩
    by_cases haccept : call.AllAccept
    · have hzero : refusals [call] = 0 := refusals_eq_zero (by simpa using haccept)
      rw [hzero]
      exact greedy_step hexact hfits hgreedy haccept
    · have hone : refusals [call] = 1 := by simp [refusals, haccept]
      rw [hone]
      exact hgreedy.free _

/-! ## Fairness -/

lemma room_of_size (hsize : pool.size ≤ 100) :
    pool.size * ((0 : ℕ) + 2) * total pool.weight < 2 ^ 63 := by
  have hsum : total pool.weight ≤ ∑ _index : Fin pool.size, (2 ^ 32 : ℤ) := by
    refine Finset.sum_le_sum fun index _ => ?_
    have hlt : pool.weight index < 2 ^ 32 := UInt32.toNat_lt _
    omega
  rw [Finset.sum_const, Finset.card_univ, Fintype.card_fin, nsmul_eq_mul] at hsum
  have hworkers : (pool.size : ℤ) ≤ 100 := by omega
  have hall := mul_le_mul_of_nonneg_right hworkers (total_nonneg pool.weight)
  push_cast
  linarith

/-- How often a worker has been chosen. -/
def WeightedRun.turns (run : WeightedRun pool) (index : Fin pool.size) : ℕ :=
  run.chosen.count (some index)

/-- Fairness as a bound on the balance, in terms of turns. -/
theorem turns_bounds {rounds turns weight size : ℕ} {total : ℤ} (htotal : 0 < total)
    (hlow : -total < rounds * weight - turns * total)
    (hhigh : rounds * weight - turns * total < ((size : ℤ) - 1) * total) :
    (rounds * weight / total - (size - 1) : ℚ) < turns ∧
      (turns : ℚ) < rounds * weight / total + 1 := by
  have hpos : (0 : ℚ) < total := by exact_mod_cast htotal
  have hlow' : (-total : ℚ) < rounds * weight - turns * total := by exact_mod_cast hlow
  have hhigh' : (rounds * weight - turns * total : ℚ) < (size - 1) * total := by
    exact_mod_cast hhigh
  constructor
  · rw [sub_lt_iff_lt_add, div_lt_iff₀ hpos]
    linarith
  · rw [← sub_lt_iff_lt_add, lt_div_iff₀ hpos]
    linarith

/-- When all circuits accept, every call chooses a worker, the scores neither overflow nor fail to
add up to zero, and every worker has been chosen about as often as its share of the weight says.
After full cycles it has been chosen exactly as often. -/
theorem weighted_round_robin_fair (pool : WorkerPool D) (hsize : pool.size ≤ 100)
    (calls : List (WeightedCall pool)) (haccept : ∀ call ∈ calls, call.AllAccept) :
    (weightedRun calls).chosen.length = calls.length ∧ none ∉ (weightedRun calls).chosen ∧
    (∀ index, ((weightedRun calls).scores index).toInt = calls.length * pool.weight index -
        (weightedRun calls).turns index * total pool.weight ∧
      ((weightedRun calls).entitlement index).toInt =
        ((weightedRun calls).scores index).toInt + pool.weight index) ∧
    ∑ index, ((weightedRun calls).scores index).toInt = 0 ∧
    (2 ≤ pool.size → ∀ index,
      (calls.length * pool.weight index / total pool.weight - (pool.size - 1) : ℚ) <
          (weightedRun calls).turns index ∧
        ((weightedRun calls).turns index : ℚ) <
          calls.length * pool.weight index / total pool.weight + 1) ∧
    ∀ cycles : ℕ, (calls.length : ℤ) = cycles * total pool.weight → ∀ index,
      (weightedRun calls).turns index = cycles * pool.weight index ∧
        (weightedRun calls).scores index = 0 := by
  have hroom := room_of_size hsize
  have hrefusals := refusals_eq_zero haccept
  obtain ⟨hexact, hgreedy⟩ := weightedRun_greedy calls (hrefusals ▸ hroom)
  rw [hrefusals] at hgreedy
  have hfits := fits_of_greedy hroom hgreedy
  have hpos : ∀ index, 0 < pool.weight index := weight_pos
  have hlength := length_chosen calls
  have hbalance : ∀ index, balance pool.weight (weightedRun calls).chosen index =
      calls.length * pool.weight index - (weightedRun calls).turns index * total pool.weight := by
    intro index
    rw [balance, hlength, WeightedRun.turns]
  have htotal : 0 < total pool.weight :=
    lt_of_lt_of_le (by exact_mod_cast hpos ⟨0, pool.size_pos⟩) (weight_le_total pool.weight _)
  refine ⟨hlength, count_eq_zero.mp (Nat.le_zero.mp hgreedy.count_none_le), ?_, ?_, ?_, ?_⟩
  · intro index
    rw [toInt_entitlement hexact hfits, hexact index]
    exact ⟨hbalance index, rfl⟩
  · rw [sum_congr rfl fun index _ => hexact index]
    exact hgreedy.sum_eq_zero
  · intro htwo index
    have hlow := hgreedy.neg_total_lt hpos index
    have hhigh := hgreedy.balance_lt hpos (by rwa [Fintype.card_fin]) index
    rw [Fintype.card_fin] at hhigh
    rw [hbalance] at hlow hhigh
    simp only [Nat.cast_zero, zero_add, one_mul, mul_one] at hlow hhigh
    exact turns_bounds htotal hlow hhigh
  · intro cycles hcycles index
    have hrounds : ((weightedRun calls).chosen.length : ℤ) = cycles * total pool.weight := by
      rw [hlength, hcycles]
    have hzero := hgreedy.balance_eq_zero hpos hrounds index
    constructor
    · rw [hbalance, hcycles] at hzero
      have hshare : ((weightedRun calls).turns index : ℤ) * total pool.weight =
          (cycles * pool.weight index) * total pool.weight := by linarith
      exact_mod_cast mul_right_cancel₀ htotal.ne' hshare
    · apply Int64.toInt_inj.mp
      rw [hexact index, hzero]
      rfl

/-- Two workers of weight one. -/
def twinPool : WorkerPool Unit where
  workers := [⟨"a", "http://a", 1⟩, ⟨"b", "http://b", 1⟩]
  policy := .weightedRoundRobin
  totalWeight := 2
  ewmaAlpha := ()
  ewmaProbeInterval := 10
  hashRing := sortedRing ["a", "b"] 1
  totalExecutionCapacity := 16
  concurrencyLimit := 8
  circuitConfig := {}
  workers_ne_nil := by decide
  weight_pos := by decide
  totalWeight_eq := by decide
  hashRing_wellFormed := by
    have hring : ConsistentHashRing.new ["a", "b"] 1 = .ok (sortedRing ["a", "b"] 1) := by
      decide +kernel
    obtain ⟨haccepted, heq⟩ := new_eq_ok_iff.mp hring
    exact heq ▸ haccepted.wellFormed
  hashRing_workerIds := by decide

def firstTwin : Fin twinPool.size := ⟨0, by decide⟩

def secondTwin : Fin twinPool.size := ⟨1, by decide⟩

/-- A call in which the circuits of some workers are open. -/
def twinCall (refusing : List (Fin twinPool.size)) : WeightedCall twinPool where
  state :=
    { next := 0
      ewmaDecisions := 0
      workers := fun index =>
        { smoothCurrent := 0
          latency := none
          inFlight := 0
          circuit :=
            if index ∈ refusing then { CircuitData.new with state := .opened 1 } else .new } }
  clock := fun _ => 0

lemma twinCall_allAccept : (twinCall []).AllAccept := by
  intro index turn
  rfl

theorem weighted_round_robin_fair_twins :
    (∀ call ∈ List.replicate 4 (twinCall []), call.AllAccept) ∧
      ∀ index, (weightedRun (List.replicate 4 (twinCall []))).turns index = 2 := by
  have haccept : ∀ call ∈ List.replicate 4 (twinCall []), call.AllAccept := by
    intro call hmem
    rw [eq_of_mem_replicate hmem]
    exact twinCall_allAccept
  obtain ⟨-, -, -, -, -, hcycles⟩ := weighted_round_robin_fair twinPool (by decide)
    (List.replicate 4 (twinCall [])) haccept
  refine ⟨haccept, fun index => ?_⟩
  have hweight : ∀ index, twinPool.weight index = 1 := by decide
  rw [(hcycles 2 (by decide) index).1, hweight index]

/-! ## Refusals -/

lemma eq_firstTwin_or_secondTwin : ∀ index, index = firstTwin ∨ index = secondTwin := by
  decide

lemma total_twins : total twinPool.weight = 2 := by
  decide

/-- While the first of the twins refuses, all calls choose the second one. -/
theorem weightedRun_refusing (calls : ℕ) :
    (weightedRun (List.replicate calls (twinCall [firstTwin]))).chosen =
      List.replicate calls (some secondTwin) := by
  induction calls with
  | zero => rfl
  | succ calls ih =>
    rw [replicate_succ', weightedRun_append_singleton, step_chosen, ih, replicate_succ']
    obtain ⟨hsome, hnone⟩ := choice_spec (weightedRun (List.replicate calls (twinCall [firstTwin])))
      (twinCall [firstTwin])
    cases hchoice : (weightedRun (List.replicate calls (twinCall [firstTwin]))).choice
        (twinCall [firstTwin]) with
    | none =>
      obtain ⟨turn, hrefused⟩ := hnone hchoice secondTwin
      cases hrefused
    | some index =>
      obtain ⟨turn, hgranted⟩ := (hsome index hchoice).1
      rcases eq_firstTwin_or_secondTwin index with rfl | rfl
      · cases hgranted
      · rfl

/-- The first of the twins refuses in the first calls only. -/
def recoveringCalls (refused recovered : ℕ) : List (WeightedCall twinPool) :=
  List.replicate refused (twinCall [firstTwin]) ++ List.replicate recovered (twinCall [])

lemma room_recovering {refused : ℕ} (hrefused : refused < 2 ^ 60) (recovered : ℕ) :
    twinPool.size * (refusals (recoveringCalls refused recovered) + 2) * total twinPool.weight <
      2 ^ 63 := by
  have hrecovered : refusals (List.replicate recovered (twinCall [])) = 0 :=
    refusals_eq_zero fun call hmem => eq_of_mem_replicate hmem ▸ twinCall_allAccept
  have hle : refusals (List.replicate refused (twinCall [firstTwin])) ≤ refused :=
    countP_le_length.trans_eq length_replicate
  rw [recoveringCalls, refusals_append, hrecovered, total_twins]
  change (2 : ℤ) * _ * 2 < _
  omega

/-- After that the first one is chosen as often in a row. -/
theorem weightedRun_recovered {refused : ℕ} (hrefused : refused < 2 ^ 60) (turns : ℕ)
    (hturns : turns ≤ refused) : (weightedRun (recoveringCalls refused turns)).chosen =
      List.replicate refused (some secondTwin) ++ List.replicate turns (some firstTwin) := by
  induction turns with
  | zero => simp [recoveringCalls, weightedRun_refusing]
  | succ turns ih =>
    have ih := ih (by omega)
    have hcalls : recoveringCalls refused (turns + 1) =
        recoveringCalls refused turns ++ [twinCall []] := by
      simp [recoveringCalls, replicate_succ']
    have hroom := room_recovering hrefused turns
    obtain ⟨hexact, hgreedy⟩ := weightedRun_greedy (recoveringCalls refused turns) hroom
    have hfits := fits_of_greedy hroom hgreedy
    obtain ⟨index, hchoice, hrichest⟩ := choice_of_allAccept
      (weightedRun (recoveringCalls refused turns)) twinCall_allAccept
    rw [hcalls, weightedRun_append_singleton, step_chosen, ih, hchoice, replicate_succ',
      ← append_assoc]
    rcases eq_firstTwin_or_secondTwin index with rfl | rfl
    · rfl
    · -- the second one has nothing left
      have hle := Int64.le_iff_toInt_le.mp (hrichest firstTwin)
      have hrefusing : ∀ index, balance twinPool.weight
          (List.replicate refused (some secondTwin)) index =
            refused * twinPool.weight index -
              if secondTwin = index then (refused : ℤ) * 2 else 0 := by
        intro index
        rw [← nil_append (List.replicate refused (some secondTwin)),
          balance_append_replicate, balance_nil, total_twins, zero_add]
      have hweight : ∀ index, twinPool.weight index = 1 := by decide
      have hne : secondTwin ≠ firstTwin := by decide
      rw [toInt_entitlement hexact hfits, toInt_entitlement hexact hfits, ih,
        balance_append_replicate, balance_append_replicate, hrefusing, hrefusing, hweight, hweight,
        total_twins, if_neg hne, if_pos rfl, if_pos rfl, if_neg hne.symm] at hle
      omega

/-- Circuits may refuse in some calls, with any number of calls around them. Then the scores add
up to what the calls without a choice have left, and they are bounded by the number of calls with
a refusal. A worker that has accumulated a score while its circuit was open is chosen in a row
after that, until the score is used up. -/
theorem entitlement_under_refusals (pool : WorkerPool D) (calls : List (WeightedCall pool))
    (hroom : pool.size * (refusals calls + 2) * total pool.weight < 2 ^ 63) :
    (∀ index, ((weightedRun calls).scores index).toInt = calls.length * pool.weight index -
      (weightedRun calls).turns index * total pool.weight) ∧
    ∑ index, ((weightedRun calls).scores index).toInt =
        (weightedRun calls).chosen.count none * total pool.weight ∧
    (weightedRun calls).chosen.count none ≤ refusals calls ∧
    (∀ index, |((weightedRun calls).scores index).toInt| ≤
      pool.size * (refusals calls + 1) * total pool.weight) ∧
    ∀ recovered, (∀ call ∈ recovered, call.AllAccept) →
      ∀ index turns, (weightedRun (calls ++ recovered)).chosen =
        (weightedRun calls).chosen ++ List.replicate (turns + 1) (some index) →
      ∀ other, index ≠ other →
        turns * (total pool.weight - pool.weight index + pool.weight other) ≤
          ((weightedRun calls).scores index).toInt + pool.weight index -
            (((weightedRun calls).scores other).toInt + pool.weight other) ∧
        turns * (total pool.weight - pool.weight index + pool.weight other) ≤
          (pool.size + 1) * (refusals calls + 1) * total pool.weight := by
  obtain ⟨hexact, hgreedy⟩ := weightedRun_greedy calls hroom
  refine ⟨?_, ?_, hgreedy.count_none_le, ?_, ?_⟩
  · intro index
    rw [hexact index, balance, length_chosen, WeightedRun.turns]
  · rw [sum_congr rfl fun index _ => hexact index]
    exact sum_balance
  · intro index
    rw [hexact index]
    have := hgreedy.abs_balance_le weight_pos index
    rwa [Fintype.card_fin] at this
  · intro recovered haccept index turns hchosen other hother
    rw [hexact index, hexact other]
    -- the last of the calls decides
    obtain rfl | ⟨recovered, last, rfl⟩ := eq_nil_or_concat' recovered
    · have := congrArg List.length hchosen
      simp at this
    · rw [← append_assoc, weightedRun_append_singleton, step_chosen, replicate_succ',
        ← append_assoc] at hchosen
      obtain ⟨hbefore, hlast⟩ := append_inj' hchosen rfl
      have hrefusals : refusals (calls ++ recovered) = refusals calls := by
        rw [refusals_append, refusals_eq_zero fun call hmem =>
          haccept call (mem_append_left _ hmem), Nat.add_zero]
      rw [← hrefusals] at hroom
      obtain ⟨hexact', hgreedy'⟩ := weightedRun_greedy (calls ++ recovered) hroom
      have hfits' := fits_of_greedy hroom hgreedy'
      obtain ⟨winner, hchoice, hrichest⟩ := choice_of_allAccept (weightedRun (calls ++ recovered))
        (haccept last (by simp))
      obtain rfl : winner = index := by
        rw [hchoice] at hlast
        simpa using hlast
      have hle := Int64.le_iff_toInt_le.mp (hrichest other)
      rw [toInt_entitlement hexact' hfits', toInt_entitlement hexact' hfits', hbefore] at hle
      have hturns := turns_le hother turns hle
      refine ⟨hturns, hturns.trans ?_⟩
      have hhigh := hgreedy.balance_le weight_pos winner
      rw [Fintype.card_fin] at hhigh
      have hother : (0 : ℤ) ≤ pool.weight other := Int.natCast_nonneg _
      linarith [hgreedy.neg_total_lt weight_pos other, weight_le_total pool.weight winner]

theorem entitlement_under_refusals_twins :
    (weightedRun (recoveringCalls 3 0 ++ List.replicate 3 (twinCall []))).chosen =
      (weightedRun (recoveringCalls 3 0)).chosen ++ List.replicate 3 (some firstTwin) ∧
    |((weightedRun (recoveringCalls 3 0)).scores firstTwin).toInt| ≤
      twinPool.size * (refusals (recoveringCalls 3 0) + 1) * total twinPool.weight ∧
    2 * (total twinPool.weight - twinPool.weight firstTwin + twinPool.weight secondTwin) ≤
      ((weightedRun (recoveringCalls 3 0)).scores firstTwin).toInt + twinPool.weight firstTwin -
        (((weightedRun (recoveringCalls 3 0)).scores secondTwin).toInt +
          twinPool.weight secondTwin) := by
  have hrow : (weightedRun (recoveringCalls 3 0 ++ List.replicate 3 (twinCall []))).chosen =
      (weightedRun (recoveringCalls 3 0)).chosen ++ List.replicate 3 (some firstTwin) := by
    rw [weightedRun_recovered (by decide) 0 (by decide)]
    have hcalls : recoveringCalls 3 0 ++ List.replicate 3 (twinCall []) = recoveringCalls 3 3 := rfl
    rw [hcalls, weightedRun_recovered (by decide) 3 (by decide)]
    rfl
  obtain ⟨-, -, -, hbound, hrecovered⟩ := entitlement_under_refusals twinPool (recoveringCalls 3 0)
    (room_recovering (by decide) 0)
  refine ⟨hrow, hbound firstTwin, ?_⟩
  exact (hrecovered (List.replicate 3 (twinCall []))
    (fun call hmem => eq_of_mem_replicate hmem ▸ twinCall_allAccept) firstTwin 2 hrow
    secondTwin (by decide)).1

/-- A call that no circuit accepts is not paid for, a refusing worker's score passes any multiple
of the total weight, and when it accepts again it is chosen as often in a row as it has
refused. -/
theorem entitlement_unbounded :
    ∑ index, ((weightedRun [twinCall [firstTwin, secondTwin]]).scores index).toInt ≠ 0 ∧
    twinPool.size * total twinPool.weight <
      |((weightedRun (List.replicate 5 (twinCall [firstTwin]))).scores firstTwin).toInt| ∧
    ∀ refused < 2 ^ 60, (weightedRun (recoveringCalls refused refused)).chosen =
      List.replicate refused (some secondTwin) ++ List.replicate refused (some firstTwin) := by
  refine ⟨by decide +kernel, by decide +kernel, ?_⟩
  intro refused hrefused
  exact weightedRun_recovered hrefused refused (Nat.le_refl _)

end InferLab.Gateway
