import InferLab.OnlineSoftmax
import InferLab.Worker.AttentionKernels
import InferLab.Worker.ExactReals

/-!
# Worker runtime: the two attention kernels compute the same

In exact arithmetic both kernels write the average of the values with the softmax of the scores
as weights. The materialized one divides every weight by their sum; the tiled one keeps sums
that it rescales whenever a tile has a higher score than the tiles before.
-/

namespace InferLab.Worker

open RowMajor FloatOps OnlineSoftmax ExactReal List Function

/-! ## One head -/

section Head

variable {scale m : ℝ} {query : List ℝ} {sources tile done : List (List ℝ × List ℝ)} {width : ℕ}

/-- The score of a source. -/
noncomputable def exactScore (scale : ℝ) (query : List ℝ) (source : List ℝ × List ℝ) : ℝ :=
  ((List.zip query source.1).map fun p => p.1 * p.2).sum * scale

/-- A column of a source's value. -/
def exactValue (column : ℕ) (source : List ℝ × List ℝ) : ℝ := source.2.getD column 0

/-- What both kernels write for a query. -/
noncomputable def exactHead (scale : ℝ) (query : List ℝ) (sources : List (List ℝ × List ℝ)) :
    List ExactReal :=
  (List.range query.length).map fun column =>
    real (average (exactScore scale query) (exactValue column) sources)

lemma attentionScore_eq (source : List ℝ × List ℝ) :
    attentionScore (real scale) (query.map real) (source.1.map real) =
      real (exactScore scale query source) := by
  unfold attentionScore exactScore
  rw [zip_map, foldl_map]
  change (List.foldl (fun sum (p : ℝ × ℝ) => sum + real (p.1 * p.2)) (real 0) _) * real scale = _
  rw [foldl_add_eq, real_mul, zero_add]

lemma materializedHead_eq (hsources : sources ≠ []) :
    materializedHead (real scale) (query.map real) (sources.map fun p => p.1.map real)
      (sources.map fun p => p.2.map real) = exactHead scale query sources := by
  have hscores : (sources.map fun p => p.1.map real).map
      (attentionScore (real scale) (query.map real)) =
      sources.map fun p => real (exactScore scale query p) := by
    rw [map_map]
    exact map_congr_left fun p _ => attentionScore_eq p
  obtain ⟨m, hm⟩ := exists_foldl_max_eq (f := exactScore scale query) hsources FloatOps.negInf
  have hexponentials : (sources.map fun p => real (exactScore scale query p)).map
      (fun score => exp (score - real m)) =
      sources.map fun p => real (Real.exp (exactScore scale query p - m)) := by
    rw [map_map]
    rfl
  have hdenominator : (sources.map fun p => real (Real.exp (exactScore scale query p - m))).foldl
      (· + ·) 0 = real (total (exactScore scale query) m sources) := by
    rw [foldl_map]
    change List.foldl (fun sum p => sum + real (Real.exp (exactScore scale query p - m))) (real 0) _
      = _
    rw [foldl_add_eq, zero_add]
    rfl
  unfold materializedHead exactHead
  simp only [hscores, hm, hexponentials, hdenominator, length_map]
  apply map_congr_left
  intro column _
  rw [map_map, zip_map', foldl_map]
  simp only [comp_apply, real_div, getD_map_real, real_mul]
  rw [zero_eq, foldl_add_eq, zero_add]
  congr 1
  exact sum_div_total

/-! ## Tiles -/

/-- The sums of the tiled kernel, relative to the number `m`. -/
structure Online (score : List ℝ × List ℝ → ℝ) (width : ℕ) (done : List (List ℝ × List ℝ))
    (m : ℝ) (maximum : ExactReal) (state : OnlineState ExactReal) : Prop where
  maximum : state.runningMaximum = maximum
  denominator : state.runningDenominator = real (total score m done)
  numerator : state.numerator = (List.range width).map fun column =>
    real (weighted score (exactValue column) m done)

/-- The sums are relative to the running maximum, once there is one. -/
def Tiled (score : List ℝ × List ℝ → ℝ) (width : ℕ) (done : List (List ℝ × List ℝ))
    (state : OnlineState ExactReal) : Prop :=
  ∃ m maximum, Online score width done m maximum state ∧
    ((done = [] ∧ maximum = ExactReal.negInf) ∨ maximum = real m)

lemma mapIdx_map_range {β γ : Type} (n : ℕ) (g : ℕ → β) (f : ℕ → β → γ) :
    ((List.range n).map g).mapIdx f = (List.range n).map fun i => f i (g i) := by
  apply ext_getElem
  · simp
  · intro i h₁ h₂
    simp

variable {state : OnlineState ExactReal}

/-- The sources of a tile are added one after another. -/
theorem Online.foldl {score : List ℝ × List ℝ → ℝ} {maximum : ExactReal}
    (h : Online score width done m maximum state) :
    Online score width (done ++ tile) m maximum (tile.foldl (fun state p => { state with
      runningDenominator := state.runningDenominator + real (Real.exp (score p - m))
      numerator := state.numerator.mapIdx fun column sum =>
        sum + real (Real.exp (score p - m)) * (p.2.map real).getD column 0 }) state) := by
  induction tile generalizing done state with
  | nil =>
    rw [append_nil]
    exact h
  | cons p tile ih =>
    rw [foldl_cons, append_cons]
    apply ih
    refine ⟨h.maximum, ?_, ?_⟩
    · show state.runningDenominator + _ = _
      rw [h.denominator, real_add, total_append]
      simp [total]
    · show state.numerator.mapIdx _ = _
      rw [h.numerator, mapIdx_map_range]
      apply map_congr_left
      intro column _
      rw [getD_map_real, real_mul, real_add, weighted_append]
      simp [weighted, exactValue]

/-- A tile is rescaled to its own maximum. -/
theorem Online.rescale {score : List ℝ × List ℝ → ℝ} {maximum : ExactReal}
    (h : Online score width done m maximum state)
    (hmaximum : (done = [] ∧ maximum = ExactReal.negInf) ∨ maximum = real m) (m' : ℝ) :
    Online score width done m' (real m') {
      runningMaximum := real m'
      runningDenominator := state.runningDenominator *
        (if isInf state.runningMaximum then 0 else exp (state.runningMaximum - real m'))
      numerator := state.numerator.map (· *
        (if isInf state.runningMaximum then 0 else exp (state.runningMaximum - real m'))) } := by
  rcases hmaximum with ⟨hnil, hnone⟩ | hsome
  · -- there is nothing to rescale before the first tile
    have hinf : isInf state.runningMaximum = true := by
      rw [h.maximum, hnone]
      rfl
    refine ⟨rfl, ?_, ?_⟩
    · rw [if_pos hinf, h.denominator, hnil, zero_eq, real_mul, total_nil, total_nil, mul_zero]
    · rw [if_pos hinf, h.numerator, map_map, hnil]
      apply map_congr_left
      intro column _
      rw [comp_apply, zero_eq, real_mul, weighted_nil, weighted_nil, mul_zero]
  · have hinf : isInf state.runningMaximum = false := by
      rw [h.maximum, hsome]
      rfl
    have hscale : exp (state.runningMaximum - real m') = real (Real.exp (m - m')) := by
      rw [h.maximum, hsome]
      rfl
    refine ⟨rfl, ?_, ?_⟩
    · rw [hinf, if_neg Bool.false_ne_true, hscale, h.denominator, real_mul, total_mul_exp]
    · rw [hinf, if_neg Bool.false_ne_true, hscale, h.numerator, map_map]
      apply map_congr_left
      intro column _
      rw [comp_apply, real_mul, weighted_mul_exp]

/-- One tile. -/
theorem Tiled.onlineTile (htile : tile ≠ []) (h : Tiled (exactScore scale query) width done state) :
    Tiled (exactScore scale query) width (done ++ tile) (onlineTile (real scale)
      (query.map real) (tile.map fun p => (p.1.map real, p.2.map real)) state) := by
  obtain ⟨m, maximum, honline, hmaximum⟩ := h
  have hscores : (tile.map fun p => (p.1.map real, p.2.map real)).map
      (fun p => attentionScore (real scale) (query.map real) p.1) =
      tile.map fun p => real (exactScore scale query p) := by
    rw [map_map]
    exact map_congr_left fun p _ => attentionScore_eq p
  obtain ⟨t, ht⟩ := exists_foldl_max_eq (f := exactScore scale query) htile FloatOps.negInf
  obtain ⟨m', hm'⟩ := exists_max_eq (y := t) state.runningMaximum
  refine ⟨m', real m', ?_, .inr rfl⟩
  unfold Worker.onlineTile
  simp only [hscores, ht, hm']
  rw [zip_map', foldl_map]
  exact (honline.rescale hmaximum m').foldl

lemma Tiled.start : Tiled (exactScore scale query) width [] {
    runningMaximum := FloatOps.negInf
    runningDenominator := 0
    numerator := List.replicate width 0 } := by
  refine ⟨0, ExactReal.negInf, ⟨rfl, rfl, ?_⟩, .inl ⟨rfl, rfl⟩⟩
  show List.replicate width (real 0) = (List.range width).map fun _ => real 0
  rw [map_const', length_range]

/-- The number of tiles for `n` sources. -/
def tileCount (tileTokens n : ℕ) : ℕ := (n + tileTokens - 1) / tileTokens

/-- The tiles before a source's end are not empty. -/
theorem mul_lt_of_lt_tileCount {tileTokens n k : ℕ} (hk : k < tileCount tileTokens n) :
    k * tileTokens < n := by
  have hle : (k + 1) * tileTokens ≤ n + tileTokens - 1 :=
    (Nat.mul_le_mul_right _ hk).trans (Nat.div_mul_le_self _ _)
  rw [Nat.add_mul] at hle
  rcases Nat.eq_zero_or_pos tileTokens with hzero | hpos
  · rw [tileCount, hzero, Nat.div_zero] at hk
    exact absurd hk (Nat.not_lt_zero k)
  · omega

lemma le_tileCount_mul {tileTokens n : ℕ} (hpos : 0 < tileTokens) :
    n ≤ tileCount tileTokens n * tileTokens := by
  have hdiv := Nat.div_add_mod (n + tileTokens - 1) tileTokens
  have hmod := Nat.mod_lt (n + tileTokens - 1) hpos
  unfold tileCount
  rw [Nat.mul_comm]
  omega

/-- All tiles, one after another. -/
theorem Tiled.tiles (scale : ℝ) (query : List ℝ) (width : ℕ) (sources : List (List ℝ × List ℝ))
    {tileTokens k : ℕ} (hpos : 0 < tileTokens)
    (hk : k ≤ tileCount tileTokens sources.length) :
    Tiled (exactScore scale query) width (sources.take (k * tileTokens))
      ((List.range k).foldl (fun state k => Worker.onlineTile (real scale) (query.map real)
        (((sources.map fun p => (p.1.map real, p.2.map real)).drop (k * tileTokens)).take
          tileTokens) state)
        { runningMaximum := FloatOps.negInf, runningDenominator := 0,
          numerator := List.replicate width 0 }) := by
  induction k with
  | zero =>
    rw [Nat.zero_mul, take_zero]
    exact Tiled.start
  | succ k ih =>
    have hlt : k * tileTokens < sources.length := mul_lt_of_lt_tileCount hk
    have htile : (sources.drop (k * tileTokens)).take tileTokens ≠ [] := by
      intro hnil
      have hlength := congrArg List.length hnil
      rw [length_take, length_drop, length_nil] at hlength
      omega
    rw [range_succ, foldl_append, foldl_cons, foldl_nil, ← map_drop,
      ← map_take, Nat.add_mul, Nat.one_mul, take_add]
    exact (ih (by omega)).onlineTile htile

lemma onlineHead_eq {tileTokens : ℕ} (hpos : 0 < tileTokens) (hsources : sources ≠ []) :
    onlineHead tileTokens (real scale) (query.map real) (sources.map fun p => p.1.map real)
      (sources.map fun p => p.2.map real) = .ok (exactHead scale query sources) := by
  have htiled := Tiled.tiles scale query query.length sources hpos (Nat.le_refl _)
  rw [take_of_length_le (le_tileCount_mul hpos)] at htiled
  obtain ⟨m, maximum, honline, -⟩ := htiled
  have htotal : 0 < total (exactScore scale query) m sources := total_pos hsources
  unfold onlineHead
  rw [zip_map']
  simp only [length_map]
  unfold tileCount at honline
  rw [if_neg, honline.numerator, honline.denominator]
  · rw [map_map]
    congr 1
    apply map_congr_left
    intro column _
    rw [comp_apply, real_div, weighted_div_total]
  · rw [honline.denominator, lessEqual_zero_eq_false htotal]
    simp [show isFinite (real (total (exactScore scale query) m sources)) = true from rfl]

lemma attentionHead_eq (scale : ℝ) (query : List ℝ) {config : AttentionConfig}
    (htile : 0 < config.tileTokens) (hsources : sources ≠ []) :
    attentionHead config (real scale) (query.map real) (sources.map fun p => p.1.map real)
      (sources.map fun p => p.2.map real) = .ok (exactHead scale query sources) := by
  unfold attentionHead
  cases config.algorithm with
  | materialized => exact congrArg Except.ok (materializedHead_eq hsources)
  | onlineTiled => exact onlineHead_eq htile hsources

end Head

/-! ## The kernels -/

section Kernels

variable (queries keys values : List ℝ)
  {queryTokens keyValueTokens heads headDimension queryStartPosition : ℕ}
  {config : AttentionConfig}

/-- What one head of a query reads. -/
def exactSources (heads headDimension head : ℕ) (keys values : List ℝ) (sources : ℕ) :
    List (List ℝ × List ℝ) :=
  (List.range sources).map fun source =>
    (headShare headDimension head (rowAt (heads * headDimension) keys source),
      headShare headDimension head (rowAt (heads * headDimension) values source))

lemma headShare_map {head : ℕ} (row : List ℝ) :
    headShare headDimension head (row.map real) = (headShare headDimension head row).map real := by
  unfold headShare
  rw [← map_drop, ← map_take]

/-- A query that is accepted has something to read. -/
theorem legalSources_pos (hshape : AttentionShape config queryTokens keyValueTokens heads
      headDimension queryStartPosition) (query : ℕ) :
    0 < legalSources query keyValueTokens queryStartPosition config.causal := by
  have htokens : 0 < keyValueTokens := hshape.1.2.1
  unfold legalSources
  split
  · omega
  · exact htokens

/-- In exact arithmetic the kernels differ in nothing that they write. -/
theorem attentionWrites_exact (hshape : AttentionShape config queryTokens keyValueTokens heads
      headDimension queryStartPosition) :
    attentionWrites (queries.map real) (keys.map real) (values.map real) queryTokens
        keyValueTokens heads headDimension queryStartPosition config =
      .ok (ofRows queryTokens fun query => ofRows heads fun head =>
        writeHead heads headDimension query head (exactHead (1 / Real.sqrt headDimension)
          (headShare headDimension head (rowAt (heads * headDimension) queries query))
          (exactSources heads headDimension head keys values
            (legalSources query keyValueTokens queryStartPosition config.causal)))) := by
  have htile : 0 < config.tileTokens := hshape.2.1.1
  have hscale : (ofNat 1 / sqrt (ofNat headDimension) : ExactReal) =
      real (1 / Real.sqrt headDimension) := by
    show real (((1 : ℕ) : ℚ) / Real.sqrt ((headDimension : ℚ) : ℝ)) = _
    norm_cast
  rw [attentionWrites_eq htile, ← collect_ok]
  apply collect_congr
  intro query _
  rw [← collect_ok]
  apply collect_congr
  intro head _
  have hne : exactSources heads headDimension head keys values
      (legalSources query keyValueTokens queryStartPosition config.causal) ≠ [] := by
    intro hnil
    have hlength := congrArg List.length hnil
    have hpos := legalSources_pos hshape query
    rw [exactSources, length_map, length_range, length_nil] at hlength
    omega
  have hhead := attentionHead_eq (1 / Real.sqrt headDimension)
    (headShare headDimension head (rowAt (heads * headDimension) queries query)) htile hne
  have hkeys : ∀ (xs : List ℝ) (n : ℕ), headSources heads headDimension head (xs.map real) n =
      (List.range n).map fun source =>
        (headShare headDimension head (rowAt (heads * headDimension) xs source)).map real := by
    intro xs n
    unfold headSources
    apply map_congr_left
    intro source _
    rw [rowAt_map, headShare_map]
  rw [hscale, rowAt_map, headShare_map, hkeys, hkeys]
  rw [exactSources, map_map, map_map] at hhead
  exact congrArg (Except.map (writeHead heads headDimension query head)) hhead

/-- In exact arithmetic the tiled kernel never fails, it writes what the materialized one writes,
and it writes every position of the output once. -/
theorem online_eq_materialized (hshape : AttentionShape config queryTokens keyValueTokens heads
      headDimension queryStartPosition)
    (hqueries : queries.length = queryTokens * (heads * headDimension)) :
    ∃ writes, onlineTiledAttention (queries.map real) (keys.map real) (values.map real)
        queryTokens keyValueTokens heads headDimension queryStartPosition config = .ok writes ∧
      materializedAttention (queries.map real) (keys.map real) (values.map real) queryTokens
        keyValueTokens heads headDimension queryStartPosition config.causal = writes ∧
      writes.map Prod.fst = List.range (queryTokens * (heads * headDimension)) := by
  -- whether a shape is accepted does not depend on the kernel
  have honline : AttentionShape { config with algorithm := .onlineTiled } queryTokens
      keyValueTokens heads headDimension queryStartPosition := hshape
  have hmaterialized : AttentionShape { config with algorithm := .materialized } queryTokens
      keyValueTokens heads headDimension queryStartPosition := hshape
  have hwrites := attentionWrites_exact queries keys values honline
  have hlength : (queries.map real).length = queryTokens * (heads * headDimension) := by
    rw [length_map, hqueries]
  exact ⟨_, hwrites, Except.ok.inj (attentionWrites_exact queries keys values hmaterialized),
    attentionWrites_positions honline.2.1.1 hlength hwrites⟩

theorem online_eq_materialized_two :
    ∃ writes, onlineTiledAttention ([1].map real) ([2, 3].map real) ([4, 5].map real) 1 2 1 1 1
        ⟨.onlineTiled, .fp32, 1, true⟩ = .ok writes ∧
      materializedAttention ([1].map real) ([2, 3].map real) ([4, 5].map real) 1 2 1 1 1 true =
        writes ∧
      writes.map Prod.fst = List.range (1 * (1 * 1)) :=
  online_eq_materialized [1] [2, 3] [4, 5]
    (show AttentionShape ⟨.onlineTiled, .fp32, 1, true⟩ 1 2 1 1 1 by unfold AttentionShape; decide)
    rfl

end Kernels

end InferLab.Worker
