import InferLab.Worker.Attention

/-!
# Worker runtime: the loops of the attention kernels

The two kernels with the order of their loops and the positions that they write, as lists of
writes. The tiled one goes through the queries in tiles, which makes no difference to the order
in which it writes: both write every position of the output once, from the first to the last.
-/

namespace InferLab.Worker

open RowMajor FloatOps List

variable {F : Type} [FloatOps F]

/-- The keys or values that one head of a query reads. -/
def headSources (heads headDimension head : ℕ) (xs : List F) (sources : ℕ) : List (List F) :=
  (List.range sources).map fun source =>
    headShare headDimension head (rowAt (heads * headDimension) xs source)

/-- The loop that writes what was computed for one head of a query. -/
def writeHead (heads headDimension query head : ℕ) (row : List F) : List (ℕ × F) :=
  row.mapIdx fun column value =>
    (query * (heads * headDimension) + (head * headDimension + column), value)

/-- `materialized_attention`: what it writes to the output, in order. -/
def materializedAttention (queries keys values : List F)
    (queryTokens keyValueTokens heads headDimension queryStartPosition : ℕ) (causal : Bool) :
    List (ℕ × F) :=
  let scale : F := ofNat 1 / sqrt (ofNat headDimension)
  ofRows queryTokens fun query =>
    let sources := legalSources query keyValueTokens queryStartPosition causal
    ofRows heads fun head => writeHead heads headDimension query head
      (materializedHead scale
        (headShare headDimension head (rowAt (heads * headDimension) queries query))
        (headSources heads headDimension head keys sources)
        (headSources heads headDimension head values sources))

/-- `online_tiled_attention`: what it writes to the output, in order. -/
def onlineTiledAttention (queries keys values : List F)
    (queryTokens keyValueTokens heads headDimension queryStartPosition : ℕ)
    (config : AttentionConfig) : Except ModelError (List (ℕ × F)) :=
  let scale : F := ofNat 1 / sqrt (ofNat headDimension)
  let queryTiles := (queryTokens + config.tileTokens - 1) / config.tileTokens
  collect queryTiles fun queryTile =>
    let queryTileBegin := queryTile * config.tileTokens
    let queryTileEnd := min queryTokens (queryTileBegin + config.tileTokens)
    collect (queryTileEnd - queryTileBegin) fun index =>
      let query := queryTileBegin + index
      let sources := legalSources query keyValueTokens queryStartPosition config.causal
      collect heads fun head => do
        let row ← onlineHead config.tileTokens scale
          (headShare headDimension head (rowAt (heads * headDimension) queries query))
          (headSources heads headDimension head keys sources)
          (headSources heads headDimension head values sources)
        pure (writeHead heads headDimension query head row)

/-- What the chosen kernel writes. -/
def attentionWrites (queries keys values : List F)
    (queryTokens keyValueTokens heads headDimension queryStartPosition : ℕ)
    (config : AttentionConfig) : Except ModelError (List (ℕ × F)) :=
  match config.algorithm with
  | .materialized => .ok (materializedAttention queries keys values queryTokens keyValueTokens
      heads headDimension queryStartPosition config.causal)
  | .onlineTiled => onlineTiledAttention queries keys values queryTokens keyValueTokens heads
      headDimension queryStartPosition config

/-! ## What is written where -/

section Writes

variable {queries keys values : List F}
  {queryTokens keyValueTokens heads headDimension queryStartPosition query head : ℕ}
  {config : AttentionConfig} {row : List F}

/-- Both kernels go through the queries, and for each query through the heads. -/
theorem attentionWrites_eq (htile : 0 < config.tileTokens) :
    attentionWrites queries keys values queryTokens keyValueTokens heads headDimension
      queryStartPosition config =
    collect queryTokens fun query => collect heads fun head =>
      (attentionHead config (ofNat 1 / sqrt (ofNat headDimension))
        (headShare headDimension head (rowAt (heads * headDimension) queries query))
        (headSources heads headDimension head keys
          (legalSources query keyValueTokens queryStartPosition config.causal))
        (headSources heads headDimension head values
          (legalSources query keyValueTokens queryStartPosition config.causal))).map
        (writeHead heads headDimension query head) := by
  unfold attentionWrites attentionHead
  cases config.algorithm with
  | materialized =>
    show _ = collect queryTokens fun query => collect heads fun head => Except.ok _
    simp only [collect_ok]
    rfl
  | onlineTiled =>
    unfold onlineTiledAttention
    dsimp only
    rw [collect_tiles (f := fun query => collect heads fun head => do
      let row ← onlineHead config.tileTokens (ofNat 1 / sqrt (ofNat headDimension))
        (headShare headDimension head (rowAt (heads * headDimension) queries query))
        (headSources heads headDimension head keys
          (legalSources query keyValueTokens queryStartPosition config.causal))
        (headSources heads headDimension head values
          (legalSources query keyValueTokens queryStartPosition config.causal))
      pure (writeHead heads headDimension query head row)) htile]
    rfl

omit [FloatOps F] in
lemma map_fst_writeHead (hrow : row.length = headDimension) :
    (writeHead heads headDimension query head row).map Prod.fst =
      ((List.range headDimension).map fun column => head * headDimension + column).map
        (query * (heads * headDimension) + ·) := by
  unfold writeHead
  apply ext_getElem
  · simp [hrow]
  · intro i h₁ h₂
    simp only [getElem_map, getElem_mapIdx, getElem_range]

omit [FloatOps F] in
/-- A head's share of a query is as wide as the head. -/
theorem length_headShare (hqueries : queries.length = queryTokens * (heads * headDimension))
    (hquery : query < queryTokens) (hhead : head < heads) :
    (headShare headDimension head (rowAt (heads * headDimension) queries query)).length =
      headDimension := by
  have hle : (head + 1) * headDimension ≤ heads * headDimension :=
    Nat.mul_le_mul_right headDimension hhead
  rw [Nat.add_mul] at hle
  rw [headShare, length_take, length_drop, length_rowAt hqueries hquery]
  omega

/-- Every position of the output is written once. -/
theorem attentionWrites_positions (htile : 0 < config.tileTokens)
    (hqueries : queries.length = queryTokens * (heads * headDimension)) {writes : List (ℕ × F)}
    (h : attentionWrites queries keys values queryTokens keyValueTokens heads headDimension
      queryStartPosition config = .ok writes) :
    writes.map Prod.fst = List.range (queryTokens * (heads * headDimension)) := by
  rw [attentionWrites_eq htile] at h
  obtain ⟨rows, hrows, rfl⟩ := collect_eq_ok_iff.mp h
  rw [map_ofRows, ← ofRows_range]
  apply ofRows_congr
  intro query hquery
  obtain ⟨heads', hheads, hrow⟩ := collect_eq_ok_iff.mp (hrows query hquery)
  rw [hrow, map_ofRows, ← ofRows_range, map_ofRows]
  apply ofRows_congr
  intro head hhead
  have hwrites := hheads head hhead
  cases hout : attentionHead config (ofNat 1 / sqrt (ofNat headDimension))
      (headShare headDimension head (rowAt (heads * headDimension) queries query))
      (headSources heads headDimension head keys
        (legalSources query keyValueTokens queryStartPosition config.causal))
      (headSources heads headDimension head values
        (legalSources query keyValueTokens queryStartPosition config.causal)) with
  | error e =>
    rw [hout] at hwrites
    cases hwrites
  | ok out =>
    rw [hout] at hwrites
    rw [← Except.ok.inj hwrites]
    exact map_fst_writeHead ((length_attentionHead hout).trans
      (length_headShare hqueries hquery hhead))

end Writes

end InferLab.Worker
