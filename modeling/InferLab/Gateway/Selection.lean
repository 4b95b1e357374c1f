import InferLab.Gateway.Routing
import Mathlib.Data.Nat.ModEq
import Mathlib.Data.List.Lattice

/-!
# Every selection asks all circuits it has to

Whatever the policy, the candidates of a selection are all workers, each of them once
(`candidates_perm`), and the lease goes to the first one whose circuit grants an attempt
(`tryLeaseIndices_selects`). The policies differ in the order only.
-/

namespace InferLab.Gateway

open Worker List

/-! ## Asking in turn -/

section Asking

variable {D : Type} {size : ℕ} {order : List (Fin size)} {clock : ℕ → ℕ}
  {before before' after after' : PoolState D size} {result : Option (WorkerLease size)}
  {refusals : ℕ}

@[simp] lemma update_workers_self (state : PoolState D size) (index : Fin size)
    (worker : WorkerState D) : (state.update index worker).workers index = worker := by
  simp [PoolState.update]

lemma update_workers_of_ne (state : PoolState D size) {index other : Fin size}
    (worker : WorkerState D) (h : other ≠ index) :
    (state.update index worker).workers other = state.workers other := by
  simp [PoolState.update, h]

lemma update_smoothCurrent (state : PoolState D size) (first index : Fin size)
    (worker : WorkerState D)
    (h : worker.smoothCurrent = (state.workers first).smoothCurrent) :
    ((state.update first worker).workers index).smoothCurrent =
      (state.workers index).smoothCurrent := by
  by_cases heq : index = first
  · rw [heq, update_workers_self, h]
  · rw [update_workers_of_ne _ _ heq]

/-- What the circuit of a worker answers in a turn. -/
def PoolState.answer (state : PoolState D size) (clock : ℕ → ℕ) (index : Fin size) (turn : ℕ) :
    Option CircuitAttempt :=
  ((state.workers index).circuit.tryAcquireAt (clock turn)).1

/-- The circuit of a worker after it has been asked once, in this turn. -/
def PoolState.circuitAsked (state : PoolState D size) (clock : ℕ → ℕ) (index : Fin size)
    (turn : ℕ) : CircuitData :=
  ((state.workers index).circuit.tryAcquireAt (clock turn)).2

/-- The circuits of the workers in `order` are asked one after the other. The first `refusals` of
them refuse, and the next one, if there is one, grants the attempt of the lease. -/
structure Selects (order : List (Fin size)) (clock : ℕ → ℕ) (before after : PoolState D size)
    (result : Option (WorkerLease size)) (refusals : ℕ) : Prop where
  refused : ∀ turn < refusals, ∀ index, order[turn]? = some index →
    before.answer clock index turn = none
  granted : ∀ lease, result = some lease → order[refusals]? = some lease.worker ∧
    before.answer clock lease.worker refusals = some lease.circuitAttempt
  exhausted : result = none → refusals = order.length
  circuits : ∀ turn index, order[turn]? = some index → (after.workers index).circuit =
    if turn ≤ refusals then before.circuitAsked clock index turn
    else (before.workers index).circuit
  inFlight : ∀ index, (after.workers index).inFlight = (before.workers index).inFlight +
    if result.map (·.worker) = some index then 1 else 0

lemma tryLeaseIndices_of_notMem (order : List (Fin size)) (clock : ℕ → ℕ)
    (state : PoolState D size) (index : Fin size) (h : index ∉ order) :
    (tryLeaseIndices clock order state).2.workers index = state.workers index := by
  induction order generalizing clock state with
  | nil => rfl
  | cons first rest ih =>
    obtain ⟨hne, hrest⟩ : index ≠ first ∧ index ∉ rest := by simpa using h
    rw [tryLeaseIndices]
    dsimp only
    split
    · rw [ih _ _ hrest, update_workers_of_ne _ _ hne]
    · dsimp only [lease]
      rw [update_workers_of_ne _ _ hne, update_workers_of_ne _ _ hne]

/-- Selections do not read the scores while they ask, and leave them. -/
theorem tryLeaseIndices_smoothCurrent (order : List (Fin size)) (clock : ℕ → ℕ)
    (state : PoolState D size) (index : Fin size) :
    ((tryLeaseIndices clock order state).2.workers index).smoothCurrent =
      (state.workers index).smoothCurrent := by
  induction order generalizing clock state with
  | nil => rfl
  | cons first rest ih =>
    rw [tryLeaseIndices]
    dsimp only
    split
    · rw [ih, update_smoothCurrent]
      rfl
    · dsimp only [lease]
      rw [update_smoothCurrent, update_smoothCurrent]
      · rfl
      · rfl

lemma tryLeaseIndices_selects (order : List (Fin size)) (clock : ℕ → ℕ)
    (state : PoolState D size) (hnodup : order.Nodup) :
    ∃ refusals, Selects order clock state (tryLeaseIndices clock order state).2
      (tryLeaseIndices clock order state).1 refusals := by
  induction order generalizing clock state with
  | nil =>
    refine ⟨0, ⟨by simp, ?_, fun _ => rfl, by simp, ?_⟩⟩
    · intro lease h
      cases h
    · intro index
      simp [tryLeaseIndices]
  | cons first rest ih =>
    obtain ⟨hfirst, hrest⟩ := List.nodup_cons.mp hnodup
    rw [tryLeaseIndices]
    dsimp only
    split
    next circuit hask =>
      -- the first circuit refuses, and the others do not see the difference
      have hother : ∀ index ∈ rest, (state.update first
          { state.workers first with circuit }).workers index = state.workers index :=
        fun index hmem => update_workers_of_ne _ _ fun heq => hfirst (heq ▸ hmem)
      obtain ⟨refusals, h⟩ := ih (fun turn => clock (turn + 1))
        (state.update first { state.workers first with circuit }) hrest
      refine ⟨refusals + 1, ⟨?_, ?_, ?_, ?_, ?_⟩⟩
      · intro turn hturn index hindex
        cases turn with
        | zero =>
          obtain rfl := Option.some.inj hindex
          simp [PoolState.answer, hask]
        | succ turn =>
          have := h.refused turn (by omega) index hindex
          rwa [PoolState.answer, hother index (mem_of_getElem? hindex)] at this
      · intro lease hlease
        obtain ⟨hindex, hgranted⟩ := h.granted lease hlease
        refine ⟨hindex, ?_⟩
        rwa [PoolState.answer, hother _ (mem_of_getElem? hindex)] at hgranted
      · intro hnone
        rw [h.exhausted hnone, length_cons]
      · intro turn index hindex
        cases turn with
        | zero =>
          obtain rfl := Option.some.inj hindex
          rw [tryLeaseIndices_of_notMem _ _ _ _ hfirst, update_workers_self,
            if_pos (Nat.zero_le _), PoolState.circuitAsked, hask]
        | succ turn =>
          have := h.circuits turn index hindex
          rw [PoolState.circuitAsked, hother index (mem_of_getElem? hindex)] at this
          simpa [PoolState.circuitAsked] using this
      · intro index
        rw [h.inFlight index]
        by_cases heq : index = first
        · rw [heq, update_workers_self]
        · rw [update_workers_of_ne _ _ heq]
    next attempt circuit hask =>
      dsimp only [lease]
      refine ⟨0, ⟨by simp, ?_, by simp, ?_, ?_⟩⟩
      · intro lease hlease
        obtain rfl := Option.some.inj hlease
        exact ⟨rfl, by simp [PoolState.answer, hask]⟩
      · intro turn index hindex
        cases turn with
        | zero =>
          obtain rfl := Option.some.inj hindex
          simp [PoolState.circuitAsked, hask]
        | succ turn =>
          have hne : index ≠ first := fun heq => hfirst (heq ▸ mem_of_getElem? hindex)
          rw [update_workers_of_ne _ _ hne, update_workers_of_ne _ _ hne, if_neg (by omega)]
      · intro index
        by_cases heq : index = first
        · simp [heq]
        · rw [update_workers_of_ne _ _ heq, update_workers_of_ne _ _ heq]
          simp [Ne.symm heq]

/-- What a policy does to the other counters before and after it asks does not matter. -/
theorem Selects.congr (h : Selects order clock before after result refusals)
    (hbefore : ∀ index, (before'.workers index).circuit = (before.workers index).circuit ∧
      (before'.workers index).inFlight = (before.workers index).inFlight)
    (hafter : ∀ index, (after'.workers index).circuit = (after.workers index).circuit ∧
      (after'.workers index).inFlight = (after.workers index).inFlight) :
    Selects order clock before' after' result refusals where
  refused := by
    intro turn hturn index hindex
    rw [PoolState.answer, (hbefore index).1]
    exact h.refused turn hturn index hindex
  granted := by
    intro lease hlease
    rw [PoolState.answer, (hbefore lease.worker).1]
    exact h.granted lease hlease
  exhausted := h.exhausted
  circuits := by
    intro turn index hindex
    rw [PoolState.circuitAsked, (hbefore index).1, (hafter index).1]
    exact h.circuits turn index hindex
  inFlight := by
    intro index
    rw [(hbefore index).2, (hafter index).2]
    exact h.inFlight index

end Asking

/-! ## All workers are candidates -/

namespace WorkerPool

variable {D : Type} (pool : WorkerPool D)

lemma length_rotatedIndices (start : ℕ) : (pool.rotatedIndices start).length = pool.size := by
  rw [rotatedIndices, length_map, length_range]

lemma nodup_rotatedIndices (start : ℕ) : (pool.rotatedIndices start).Nodup := by
  refine nodup_range.map_on ?_
  intro a ha b hb heq
  have hmod : start + a ≡ start + b [MOD pool.size] := congrArg Fin.val heq
  have hcancel := Nat.ModEq.add_left_cancel' start hmod
  rwa [Nat.ModEq, Nat.mod_eq_of_lt (mem_range.mp ha),
    Nat.mod_eq_of_lt (mem_range.mp hb)] at hcancel

/-- A list that has every worker once. -/
theorem perm_of_nodup {indices : List (Fin pool.size)} (hnodup : indices.Nodup)
    (hlength : pool.size ≤ indices.length) : indices.Perm (List.finRange pool.size) := by
  have hsub : indices.Subperm (List.finRange pool.size) :=
    hnodup.subperm fun index _ => mem_finRange index
  apply hsub.perm_of_length_le
  rwa [length_finRange]

lemma rotatedIndices_perm (start : ℕ) :
    (pool.rotatedIndices start).Perm (List.finRange pool.size) :=
  pool.perm_of_nodup (pool.nodup_rotatedIndices start) (pool.length_rotatedIndices start).ge

lemma sortByInFlight_perm (state : PoolState D pool.size) (indices : List (Fin pool.size)) :
    (pool.sortByInFlight state indices).Perm indices :=
  perm_insertionSort _ _

/-- Every worker's score grows by its weight, and the candidates carry the new scores. -/
theorem addWeights_eq (indices : List (Fin pool.size)) (state : PoolState D pool.size)
    (hnodup : indices.Nodup) :
    (pool.addWeights indices state).1 = indices.map (fun index =>
      (index, (state.workers index).smoothCurrent + Int64.ofNat (pool.weight index))) ∧
    ∀ index, (pool.addWeights indices state).2.workers index =
      if index ∈ indices then { state.workers index with smoothCurrent :=
        (state.workers index).smoothCurrent + Int64.ofNat (pool.weight index) }
      else state.workers index := by
  induction indices generalizing state with
  | nil => exact ⟨rfl, fun _ => rfl⟩
  | cons first rest ih =>
    obtain ⟨hfirst, hrest⟩ := List.nodup_cons.mp hnodup
    rw [addWeights]
    dsimp only
    obtain ⟨hcandidates, hworkers⟩ := ih (state.update first { state.workers first with
      smoothCurrent := (state.workers first).smoothCurrent +
        Int64.ofNat (pool.weight first) }) hrest
    constructor
    · rw [hcandidates, map_cons]
      congr 1
      apply map_congr_left
      intro index hmem
      have hne : index ≠ first := fun heq => hfirst (heq ▸ hmem)
      rw [update_workers_of_ne _ _ hne]
    · intro index
      rw [hworkers index]
      by_cases heq : index = first
      · rw [heq, if_neg hfirst, update_workers_self, if_pos mem_cons_self]
      · rw [update_workers_of_ne _ _ heq]
        simp [heq]

lemma sortByScore_perm (candidates : List (Fin pool.size × Int64)) :
    (pool.sortByScore candidates).Perm candidates :=
  perm_insertionSort _ _

/-- The pool when the weights have been added, in a call of `try_choose_weighted_round_robin`. -/
def withWeights (state : PoolState D pool.size) :
    List (Fin pool.size × Int64) × PoolState D pool.size :=
  pool.addWeights (pool.rotatedIndices (pool.fetchStart state).1) (pool.fetchStart state).2

lemma withWeights_candidates (state : PoolState D pool.size) :
    (pool.withWeights state).1 = (pool.rotatedIndices (pool.fetchStart state).1).map
      (fun index => (index, (state.workers index).smoothCurrent +
        Int64.ofNat (pool.weight index))) :=
  (pool.addWeights_eq _ _ (pool.nodup_rotatedIndices _)).1

lemma withWeights_workers (state : PoolState D pool.size) (index : Fin pool.size) :
    (pool.withWeights state).2.workers index =
      { state.workers index with
        smoothCurrent := (state.workers index).smoothCurrent +
          Int64.ofNat (pool.weight index) } := by
  have hmem : index ∈ pool.rotatedIndices (pool.fetchStart state).1 :=
    (pool.rotatedIndices_perm _).mem_iff.mpr (mem_finRange index)
  rw [withWeights, (pool.addWeights_eq _ _ (pool.nodup_rotatedIndices _)).2, if_pos hmem]
  rfl

/-- The order in which `try_choose_weighted_round_robin` asks. -/
def weightedCandidates (state : PoolState D pool.size) : List (Fin pool.size) :=
  (pool.sortByScore (pool.withWeights state).1).map Prod.fst

lemma weightedCandidates_perm (state : PoolState D pool.size) :
    (pool.weightedCandidates state).Perm (List.finRange pool.size) := by
  have hfst : (pool.withWeights state).1.map Prod.fst =
      pool.rotatedIndices (pool.fetchStart state).1 := by
    rw [withWeights_candidates, map_map]
    exact map_id _
  have hperm := (pool.sortByScore_perm (pool.withWeights state).1).map Prod.fst
  rw [hfst] at hperm
  exact hperm.trans (pool.rotatedIndices_perm _)

lemma ewmaCandidates_perm [FloatOps D] (state : PoolState D pool.size) (start : ℕ)
    (decision : UInt64) :
    (pool.ewmaCandidates state start decision).Perm (List.finRange pool.size) := by
  unfold ewmaCandidates
  split
  · exact pool.rotatedIndices_perm start
  · dsimp only
    generalize pool.lowestLatency state (pool.rotatedIndices start) _ infinity = selected
    have hmem : selected ∈ pool.rotatedIndices start :=
      (pool.rotatedIndices_perm start).mem_iff.mpr (mem_finRange selected)
    have herase := (pool.nodup_rotatedIndices start).erase_eq_filter selected
    have hfilter : (pool.rotatedIndices start).filter (fun index => index ≠ selected) =
        (pool.rotatedIndices start).erase selected := by
      rw [herase]
      apply filter_congr
      intro index _
      by_cases heq : index = selected <;> simp [heq]
    rw [hfilter]
    exact (perm_cons_erase hmem).symm.trans (pool.rotatedIndices_perm start)

lemma ownerCandidates_perm (key : List UInt8) :
    (pool.ownerCandidates key).Perm (List.finRange pool.size) := by
  have hsize : pool.hashRing.workerIds.length = pool.size := by
    rw [pool.hashRing_workerIds, length_map, size]
  have hperm := pool.hashRing_wellFormed.ownerIndices_perm key
  rw [hsize] at hperm
  have hrange : (List.range pool.size).filterMap (fun index =>
      if h : index < pool.size then some (⟨index, h⟩ : Fin pool.size) else none) =
      List.finRange pool.size := by
    rw [← map_coe_finRange_eq_range, filterMap_map]
    have hsome : ((fun index => if h : index < pool.size then
        some (⟨index, h⟩ : Fin pool.size) else none) ∘ Fin.val) = some := by
      funext index
      simp
    rw [hsome, filterMap_some]
  rw [← hrange]
  exact hperm.filterMap _

lemma retryCandidates_perm (attemptedWorkers : List String) (start : ℕ) :
    (pool.retryCandidates attemptedWorkers start).Perm (List.finRange pool.size) := by
  refine List.Perm.trans ?_ (pool.rotatedIndices_perm start)
  unfold retryCandidates
  exact perm_append_comm.trans (filter_append_perm _ _)

/-- The order in which `try_choose_for_key` asks. -/
def candidates [FloatOps D] (key : List UInt8) (state : PoolState D pool.size) :
    List (Fin pool.size) :=
  match pool.policy, pool.fetchStart state with
  | .roundRobin, (start, _) => pool.rotatedIndices start
  | .leastInFlight, (start, state) => pool.sortByInFlight state (pool.rotatedIndices start)
  | .weightedRoundRobin, _ => pool.weightedCandidates state
  | .ewmaLatency, (start, state) => pool.ewmaCandidates state start (state.ewmaDecisions + 1)
  | .consistentHash, _ => pool.ownerCandidates key

lemma candidates_perm [FloatOps D] (key : List UInt8) (state : PoolState D pool.size) :
    (pool.candidates key state).Perm (List.finRange pool.size) := by
  unfold candidates
  cases pool.policy with
  | roundRobin => exact pool.rotatedIndices_perm _
  | leastInFlight => exact (pool.sortByInFlight_perm _ _).trans (pool.rotatedIndices_perm _)
  | weightedRoundRobin => exact pool.weightedCandidates_perm state
  | ewmaLatency => exact pool.ewmaCandidates_perm _ _ _
  | consistentHash => exact pool.ownerCandidates_perm key

lemma nodup_of_perm {order : List (Fin pool.size)}
    (h : order.Perm (List.finRange pool.size)) : order.Nodup :=
  h.nodup_iff.mpr (nodup_finRange _)

/-- What follows the addition of the weights. -/
theorem tryChooseWeightedRoundRobin_eq (clock : ℕ → ℕ) (state : PoolState D pool.size) :
    pool.tryChooseWeightedRoundRobin clock state =
      match tryLeaseIndices clock (pool.weightedCandidates state) (pool.withWeights state).2 with
      | (none, state) => (none, state)
      | (some lease, state) => (some lease, pool.payTurn lease.worker state) :=
  rfl

lemma tryChooseWeightedRoundRobin_selects (clock : ℕ → ℕ) (state : PoolState D pool.size) :
    ∃ refusals, Selects (pool.weightedCandidates state) clock state
      (pool.tryChooseWeightedRoundRobin clock state).2
      (pool.tryChooseWeightedRoundRobin clock state).1 refusals := by
  obtain ⟨refusals, h⟩ := tryLeaseIndices_selects (pool.weightedCandidates state) clock
    (pool.withWeights state).2 (pool.nodup_of_perm (pool.weightedCandidates_perm state))
  have hbefore : ∀ index,
      (state.workers index).circuit = ((pool.withWeights state).2.workers index).circuit ∧
      (state.workers index).inFlight = ((pool.withWeights state).2.workers index).inFlight := by
    intro index
    rw [withWeights_workers]
    exact ⟨rfl, rfl⟩
  refine ⟨refusals, ?_⟩
  rw [tryChooseWeightedRoundRobin_eq]
  split
  next after heq =>
    rw [heq] at h
    exact h.congr hbefore fun _ => ⟨rfl, rfl⟩
  next lease after heq =>
    rw [heq] at h
    refine h.congr hbefore fun index => ?_
    unfold payTurn
    by_cases hindex : index = lease.worker
    · rw [hindex, update_workers_self]
      exact ⟨rfl, rfl⟩
    · rw [update_workers_of_ne _ _ hindex]
      exact ⟨rfl, rfl⟩

/-- Every score grows by the worker's weight, and the chosen worker pays the total. -/
theorem tryChooseWeightedRoundRobin_smoothCurrent (clock : ℕ → ℕ) (state : PoolState D pool.size)
    (index : Fin pool.size) :
    ((pool.tryChooseWeightedRoundRobin clock state).2.workers index).smoothCurrent =
      if (pool.tryChooseWeightedRoundRobin clock state).1.map (·.worker) = some index then
        (state.workers index).smoothCurrent + Int64.ofNat (pool.weight index) - pool.totalWeight
      else (state.workers index).smoothCurrent + Int64.ofNat (pool.weight index) := by
  have hscore : ∀ index, ((tryLeaseIndices clock (pool.weightedCandidates state)
      (pool.withWeights state).2).2.workers index).smoothCurrent =
        (state.workers index).smoothCurrent + Int64.ofNat (pool.weight index) := by
    intro index
    rw [tryLeaseIndices_smoothCurrent, withWeights_workers]
  rw [tryChooseWeightedRoundRobin_eq]
  split
  next after heq =>
    rw [heq] at hscore
    simpa using hscore index
  next lease after heq =>
    rw [heq] at hscore
    dsimp only at hscore
    unfold payTurn
    by_cases hchosen : index = lease.worker
    · simp [hchosen, hscore]
    · rw [update_workers_of_ne _ _ hchosen, hscore]
      simp [Ne.symm hchosen]

/-- Only the counters of the pool have changed before the circuits are asked. -/
theorem selects_of_workers_eq {order : List (Fin pool.size)}
    (hperm : order.Perm (List.finRange pool.size)) (clock : ℕ → ℕ)
    {state state' : PoolState D pool.size} (hworkers : state'.workers = state.workers) :
    ∃ refusals, Selects order clock state (tryLeaseIndices clock order state').2
      (tryLeaseIndices clock order state').1 refusals := by
  obtain ⟨refusals, h⟩ := tryLeaseIndices_selects order clock state' (pool.nodup_of_perm hperm)
  refine ⟨refusals, h.congr (fun index => ?_) fun _ => ⟨rfl, rfl⟩⟩
  rw [hworkers]
  exact ⟨rfl, rfl⟩

lemma tryChooseForKey_selects [FloatOps D] (clock : ℕ → ℕ) (key : List UInt8)
    (state : PoolState D pool.size) :
    ∃ refusals, Selects (pool.candidates key state) clock state
      (pool.tryChooseForKey clock key state).2 (pool.tryChooseForKey clock key state).1
      refusals := by
  have hperm := pool.candidates_perm key state
  unfold candidates at hperm ⊢
  unfold tryChooseForKey tryChoose
  cases hpolicy : pool.policy with
  | weightedRoundRobin => exact pool.tryChooseWeightedRoundRobin_selects clock state
  | _ =>
    rw [hpolicy] at hperm
    exact pool.selects_of_workers_eq hperm clock rfl

lemma tryChooseRetry_selects (clock : ℕ → ℕ) (attemptedWorkers : List String)
    (state : PoolState D pool.size) :
    ∃ refusals, Selects (pool.retryCandidates attemptedWorkers (pool.fetchStart state).1) clock
      state (pool.tryChooseRetry clock attemptedWorkers state).2
      (pool.tryChooseRetry clock attemptedWorkers state).1 refusals :=
  pool.selects_of_workers_eq (pool.retryCandidates_perm attemptedWorkers _) clock rfl

/-! ## The orders -/

/-- Under `least-in-flight`, who comes later in the order has at least as many in flight. -/
theorem inFlight_le_of_later (state : PoolState D pool.size) (indices : List (Fin pool.size))
    {a b : ℕ} (hab : a ≤ b) {first second : Fin pool.size}
    (hfirst : (pool.sortByInFlight state indices)[a]? = some first)
    (hsecond : (pool.sortByInFlight state indices)[b]? = some second) :
    (state.workers first).inFlight ≤ (state.workers second).inFlight := by
  have htotal : Std.Total fun a b : Fin pool.size =>
      (state.workers a).inFlight ≤ (state.workers b).inFlight := ⟨fun _ _ => Nat.le_total _ _⟩
  have htrans : IsTrans (Fin pool.size) fun a b =>
      (state.workers a).inFlight ≤ (state.workers b).inFlight := ⟨fun _ _ _ => Nat.le_trans⟩
  have hsorted : (pool.sortByInFlight state indices).Pairwise fun a b =>
      (state.workers a).inFlight ≤ (state.workers b).inFlight :=
    pairwise_insertionSort _ _
  rcases Nat.lt_or_eq_of_le hab with hlt | rfl
  · obtain ⟨hlength, rfl⟩ := List.getElem?_eq_some_iff.mp hfirst
    obtain ⟨hlength', rfl⟩ := List.getElem?_eq_some_iff.mp hsecond
    exact pairwise_iff_getElem.mp hsorted a b hlength hlength' hlt
  · obtain rfl := Option.some.inj (hfirst.symm.trans hsecond)
    exact Nat.le_refl _

/-- Of the workers that a retry would ask, those not attempted yet come first. -/
theorem retryCandidates_attempted {attemptedWorkers : List String} {start turn : ℕ}
    {worker other : Fin pool.size}
    (hworker : (pool.retryCandidates attemptedWorkers start)[turn]? = some worker)
    (hattempted : pool.id worker ∈ attemptedWorkers) (hother : pool.id other ∉ attemptedWorkers) :
    ∃ earlier < turn, (pool.retryCandidates attemptedWorkers start)[earlier]? = some other := by
  unfold retryCandidates at hworker ⊢
  set fresh := (pool.rotatedIndices start).filter
    (fun index => !attemptedWorkers.contains (pool.id index)) with hfresh
  have hmem : other ∈ fresh := by
    rw [hfresh, mem_filter]
    exact ⟨(pool.rotatedIndices_perm start).mem_iff.mpr (mem_finRange other),
      by simpa using hother⟩
  obtain ⟨earlier, hlt, hget⟩ := getElem_of_mem hmem
  have hturn : fresh.length ≤ turn := by
    by_contra hturn
    have hinside := List.getElem?_append_left (Nat.lt_of_not_le hturn) ▸ hworker
    have hnot := (mem_filter.mp (mem_of_getElem? hinside)).2
    simp [hattempted] at hnot
  refine ⟨earlier, by omega, ?_⟩
  rw [List.getElem?_append_left hlt, List.getElem?_eq_getElem hlt, hget]

/-- A selection asks the circuits of its candidates in turn until one grants an attempt; the
candidates are all workers, each once. So every circuit is asked at most once, and without a lease
all have been asked and have refused; with a lease one attempt is granted and one worker has one
more in flight. Under `least-in-flight` no worker that would have granted an attempt in its turn
has fewer in flight, and a retry goes to an attempted worker only if all others have refused. -/
theorem selection_complete [FloatOps D] (clock : ℕ → ℕ) (state : PoolState D pool.size)
    (key : List UInt8) (attemptedWorkers : List String) :
    ((pool.candidates key state).Perm (List.finRange pool.size) ∧
      (∃ refusals, Selects (pool.candidates key state) clock state
        (pool.tryChooseForKey clock key state).2 (pool.tryChooseForKey clock key state).1
        refusals) ∧
      (pool.policy = .leastInFlight → ∀ lease,
        (pool.tryChooseForKey clock key state).1 = some lease →
        ∀ turn other, (pool.candidates key state)[turn]? = some other →
          (state.answer clock other turn).isSome →
          (state.workers lease.worker).inFlight ≤ (state.workers other).inFlight)) ∧
    (pool.retryCandidates attemptedWorkers (state.next.toNat % pool.size)).Perm
        (List.finRange pool.size) ∧
      (∃ refusals, Selects
        (pool.retryCandidates attemptedWorkers (state.next.toNat % pool.size)) clock state
        (pool.tryChooseRetry clock attemptedWorkers state).2
        (pool.tryChooseRetry clock attemptedWorkers state).1 refusals) ∧
      ∀ lease, (pool.tryChooseRetry clock attemptedWorkers state).1 = some lease →
        pool.id lease.worker ∈ attemptedWorkers →
        ∀ other, pool.id other ∉ attemptedWorkers →
          ∃ turn, (pool.retryCandidates attemptedWorkers
              (state.next.toNat % pool.size))[turn]? = some other ∧
            state.answer clock other turn = none := by
  obtain ⟨refusals, hchoose⟩ := pool.tryChooseForKey_selects clock key state
  obtain ⟨refusals', hretry⟩ := pool.tryChooseRetry_selects clock attemptedWorkers state
  refine ⟨⟨pool.candidates_perm key state, ⟨refusals, hchoose⟩, ?_⟩,
    pool.retryCandidates_perm _ _, ⟨refusals', hretry⟩, ?_⟩
  · intro hpolicy lease hlease turn other hother haccepts
    obtain ⟨hworker, -⟩ := hchoose.granted lease hlease
    -- a worker before the leased one has refused
    have hturn : refusals ≤ turn := by
      by_contra hturn
      rw [hchoose.refused turn (by omega) other hother] at haccepts
      cases haccepts
    have horder : pool.candidates key state =
        pool.sortByInFlight state (pool.rotatedIndices (pool.fetchStart state).1) := by
      unfold candidates
      rw [hpolicy]
      rfl
    rw [horder] at hworker hother
    exact pool.inFlight_le_of_later _ _ hturn hworker hother
  · intro lease hlease hattempted other hother
    obtain ⟨hworker, -⟩ := hretry.granted lease hlease
    obtain ⟨earlier, hlt, hget⟩ := pool.retryCandidates_attempted hworker hattempted hother
    exact ⟨earlier, hget, hretry.refused earlier hlt other hget⟩

end WorkerPool

end InferLab.Gateway
