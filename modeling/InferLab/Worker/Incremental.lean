import InferLab.Worker.AttentionKernels
import InferLab.Worker.Quantization
import Mathlib.Data.List.GetD

/-!
# Worker runtime: a pass over some of the positions

Every layer but attention works on one position at a time, and what a query reads does not depend
on the other queries or, with a causal mask, on what is behind it. So `forwardAll`, `forwardCached`
and the passes over the beginnings of a context are all rows of one pass (`passRows`).
-/

namespace InferLab.Worker

open RowMajor FloatOps List Except

variable {F : Type} [FloatOps F] {w k i n m : ℕ} {input weight bias : List F}

/-! ## Attention -/

section Window

variable {config : AttentionConfig} {queries keys values out : List F}
  {queryTokens keyValueTokens heads headDimension sources : ℕ}

lemma length_attentionRow (hqueries : queries.length = queryTokens * (heads * headDimension))
    (hi : i < queryTokens)
    (h : attentionRow config heads headDimension (rowAt (heads * headDimension) queries i) keys
      values sources = .ok out) : out.length = heads * headDimension := by
  obtain ⟨rows, hrows, rfl⟩ := collect_eq_ok_iff.mp h
  apply length_ofRows
  intro head hhead
  exact (length_attentionHead (hrows head hhead)).trans (length_headShare hqueries hi hhead)

/-- A query reads no more than its sources. -/
theorem attentionRow_rowsAt {query : List F} (hle : sources ≤ m) :
    attentionRow config heads headDimension query (rowsAt (heads * headDimension) keys 0 m)
        (rowsAt (heads * headDimension) values 0 m) sources =
      attentionRow config heads headDimension query keys values sources := by
  have hshare : ∀ (xs : List F) (head : ℕ),
      headSources heads headDimension head (rowsAt (heads * headDimension) xs 0 m) sources =
        headSources heads headDimension head xs sources := by
    intro xs head
    apply map_congr_left
    intro source hsource
    rw [rowAt_rowsAt ((mem_range.mp hsource).trans_le hle), Nat.zero_add]
  unfold headSources at hshare
  simp only [attentionRow, hshare]

variable [BitCast F] {prepared : List F} {precision : AttentionPrecision}

lemma prepare_eq_ok_iff :
    prepare input precision = .ok prepared ↔
      input.all isFinite = true ∧ input.map (roundAttentionValue · precision) = prepared := by
  unfold prepare
  split <;> simp [*]

/-- Some rows of an accepted input are accepted. -/
theorem prepare_rowsAt (h : prepare input precision = .ok prepared) :
    prepare (rowsAt w input i n) precision = .ok (rowsAt w prepared i n) := by
  obtain ⟨hfinite, rfl⟩ := prepare_eq_ok_iff.mp h
  refine prepare_eq_ok_iff.mpr ⟨?_, (rowsAt_map _).symm⟩
  exact all_eq_true.mpr fun x hx => all_eq_true.mp hfinite x (mem_of_mem_rowsAt hx)

/-- Some queries on their own have the same output, also without the keys and values behind them
if the mask is causal. -/
theorem attentionForward_window
    (h : attentionForward queries keys values queryTokens keyValueTokens heads headDimension 0
      config = .ok out)
    (hqueries : queries.length = queryTokens * (heads * headDimension)) (hn : 0 < n)
    (hrows : i + n ≤ queryTokens) (hsources : i + n ≤ m) (hm : m ≤ keyValueTokens)
    (hmask : m < keyValueTokens → config.causal = true) :
    attentionForward (rowsAt (heads * headDimension) queries i n)
        (rowsAt (heads * headDimension) keys 0 m) (rowsAt (heads * headDimension) values 0 m) n m
        heads headDimension i config = .ok (rowsAt (heads * headDimension) out i n) := by
  unfold attentionForward at h ⊢
  simp only [bind_eq_ok_iff, require_eq_ok_iff, decide_eq_true_eq] at h ⊢
  obtain ⟨_, hdimensions, _, htile, _, -, preparedQueries, hq, _, hk, _, hv, hout⟩ := h
  refine ⟨(), ⟨hn, by omega, hdimensions.2.2⟩, (), htile, (), by omega, _, prepare_rowsAt hq, _,
    prepare_rowsAt hk, _, prepare_rowsAt hv, ?_⟩
  have hlength : preparedQueries.length = queryTokens * (heads * headDimension) := by
    rw [← (prepare_eq_ok_iff.mp hq).2, length_map, hqueries]
  rw [← collect_rowsAt hout (fun j hj row => length_attentionRow hlength hj) hrows]
  apply collect_congr
  intro j hj
  -- the mask leaves a query the same sources, all of which are among the first `m`
  have hlegal : legalSources j m i config.causal =
      legalSources (i + j) keyValueTokens 0 config.causal ∧
        legalSources j m i config.causal ≤ m := by
    unfold legalSources
    split
    · omega
    · refine ⟨?_, le_rfl⟩
      by_contra hne
      exact absurd (hmask (by omega)) ‹_›
  rw [rowAt_rowsAt hj, attentionRow_rowsAt hlegal.2, hlegal.1]

end Window

/-! ## The layers -/

lemma rowsAt_layerNorm (hle : i + n ≤ m) :
    rowsAt w (layerNorm input m w weight bias) i n =
      layerNorm (rowsAt w input i n) n w weight bias := by
  rw [layerNorm, rowsAt_ofRows (fun _ _ => by simp [layerNormRow]) hle]
  exact ofRows_congr fun j hj => by rw [rowAt_rowsAt hj]

lemma length_linear {matrix : LinearWeight F} {offset : Option (List F)} :
    (linear input n w matrix k offset).length = n * k :=
  length_ofRows fun _ _ => by simp [linearRow]

lemma rowsAt_linear {matrix : LinearWeight F} {offset : Option (List F)} (hle : i + n ≤ m) :
    rowsAt k (linear input m w matrix k offset) i n =
      linear (rowsAt w input i n) n w matrix k offset := by
  rw [linear, rowsAt_ofRows (fun _ _ => by simp [linearRow]) hle]
  exact ofRows_congr fun j hj => by rw [rowAt_rowsAt hj]

namespace Model

variable (model : Model F) {tokenIds more : List Token} {logits out : List F}
  {matrix : LinearWeight F}

/-- The tokens of the positions `i`, …, `i + n - 1` of a context, embedded. -/
def embeddedRows (tokenIds : List Token) (i n : ℕ) : List F :=
  ofRows n fun j => model.embed (tokenIds.getD (i + j) 0) (i + j)

/-- Their queries, keys or values. -/
def projectedRows (matrix : LinearWeight F) (tokenIds : List Token) (i n : ℕ) : List F :=
  linear (layerNorm (model.embeddedRows tokenIds i n) n model.dimension model.ln1Weight
    model.ln1Bias) n model.dimension matrix model.dimension none

/-- Their logits. -/
def passRows [BitCast F] (tokenIds : List Token) (i n : ℕ) : Except ModelError (List F) := do
  let attentionContext ← attentionForward (model.projectedRows model.queryWeight tokenIds i n)
    (model.projectedRows model.keyWeight tokenIds 0 tokenIds.length)
    (model.projectedRows model.valueWeight tokenIds 0 tokenIds.length) n tokenIds.length
    model.heads (model.dimension / model.heads) i model.attention
  pure (model.finish n (model.embeddedRows tokenIds i n) attentionContext)

/-- A context that a pass accepts. -/
structure ValidContext (tokenIds : List Token) : Prop where
  ne_nil : tokenIds ≠ []
  length_le : tokenIds.length ≤ model.contextLength
  lt_vocabSize : ∀ i < tokenIds.length, tokenIds.getD i 0 < model.vocabSize

variable {model}

lemma rowsAt_finish {hidden attentionContext : List F} (hle : i + n ≤ m) :
    rowsAt model.vocabSize (model.finish m hidden attentionContext) i n =
      model.finish n (rowsAt model.dimension hidden i n)
        (rowsAt model.dimension attentionContext i n) := by
  simp only [finish, rowsAt_linear hle, rowsAt_layerNorm hle, rowsAt_zipWith, rowsAt_map]

lemma rowsAt_embeddedRows (hle : i + n ≤ m) :
    rowsAt model.dimension (model.embeddedRows tokenIds 0 m) i n =
      model.embeddedRows tokenIds i n := by
  rw [embeddedRows, rowsAt_ofRows (fun _ _ => by simp [embed]) hle]
  simp only [Nat.zero_add, embeddedRows]

lemma rowsAt_projectedRows (hle : i + n ≤ m) :
    rowsAt model.dimension (model.projectedRows matrix tokenIds 0 m) i n =
      model.projectedRows matrix tokenIds i n := by
  rw [projectedRows, rowsAt_linear hle, rowsAt_layerNorm hle, rowsAt_embeddedRows hle,
    projectedRows]

lemma length_projectedRows :
    (model.projectedRows matrix tokenIds i n).length = n * model.dimension :=
  length_linear

lemma embeddedRows_append (hle : i + n ≤ tokenIds.length) :
    model.embeddedRows (tokenIds ++ more) i n = model.embeddedRows tokenIds i n := by
  apply ofRows_congr
  intro j hj
  rw [getD_append _ _ _ _ (by omega)]

lemma embeddedRows_one : model.embeddedRows tokenIds i 1 = model.embed (tokenIds.getD i 0) i := by
  rw [embeddedRows, ofRows_succ, ofRows_zero, nil_append, Nat.add_zero]

lemma projectedRows_succ : model.projectedRows matrix tokenIds 0 (n + 1) =
    model.projectedRows matrix tokenIds 0 n ++ model.projectedRows matrix tokenIds n 1 := by
  have h : rowsAt model.dimension (model.projectedRows matrix tokenIds 0 (n + 1)) 0 (n + 1) = _ :=
    rowsAt_zero_succ
  rwa [rowAt_eq_rowsAt, rowsAt_projectedRows (by omega), rowsAt_projectedRows (by omega),
    rowsAt_projectedRows le_rfl] at h

lemma projectedRows_append (hle : i + n ≤ tokenIds.length) :
    model.projectedRows matrix (tokenIds ++ more) i n =
      model.projectedRows matrix tokenIds i n := by
  rw [projectedRows, embeddedRows_append hle, projectedRows]

/-- What an accepted position adds to a cache. -/
theorem appendKeyValue_eq (hvalid : model.ValidContext tokenIds) (hi : i < tokenIds.length) :
    model.appendKeyValue (tokenIds.getD i 0) i =
      .ok (model.projectedRows model.keyWeight tokenIds i 1,
        model.projectedRows model.valueWeight tokenIds i 1) := by
  have hbounds : tokenIds.getD i 0 < model.vocabSize ∧ i < model.contextLength :=
    ⟨hvalid.lt_vocabSize i hi, hi.trans_le hvalid.length_le⟩
  rw [projectedRows, projectedRows, embeddedRows_one, appendKeyValue, decide_eq_true hbounds]
  rfl

lemma heads_mul : model.heads * (model.dimension / model.heads) = model.dimension :=
  Nat.mul_div_cancel' (Nat.dvd_of_mod_eq_zero model.heads_dvd)

variable [BitCast F]

/-- A position is computed alike in every pass that reads what is before it. -/
theorem passRows_of_append
    (h : model.passRows (tokenIds ++ more) 0 (tokenIds ++ more).length = .ok out) (hn : 0 < n)
    (hle : i + n ≤ tokenIds.length) (hmask : more ≠ [] → model.attention.causal = true) :
    model.passRows tokenIds i n = .ok (rowsAt model.vocabSize out i n) := by
  have hlength : (tokenIds ++ more).length = tokenIds.length + more.length := length_append
  have hrows : i + n ≤ (tokenIds ++ more).length := by omega
  obtain ⟨attentionContext, hattention, hout⟩ := of_bind h
  have hwindow := attentionForward_window hattention (by rw [heads_mul, length_projectedRows])
    hn hrows hle (by omega) fun hlt => hmask (by rintro rfl; simp at hlt)
  rw [heads_mul, rowsAt_projectedRows hrows, rowsAt_projectedRows (by omega),
    rowsAt_projectedRows (by omega), projectedRows_append hle, projectedRows_append (by omega),
    projectedRows_append (by omega)] at hwindow
  refine bind_eq_ok_iff.mpr ⟨_, hwindow, ?_⟩
  rw [← ok.inj hout, rowsAt_finish hrows, rowsAt_embeddedRows hrows, embeddedRows_append hle]
  rfl

lemma forwardAll_eq_ok_iff :
    model.forwardAll tokenIds = .ok out ↔
      model.ValidContext tokenIds ∧ model.passRows tokenIds 0 tokenIds.length = .ok out := by
  have hembed : ∀ hidden, (collect tokenIds.length fun i =>
      if model.vocabSize ≤ tokenIds.getD i 0 then Except.error ModelError.forwardToken
      else Except.ok (model.embed (tokenIds.getD i 0) i)) = .ok hidden ↔
      (∀ i < tokenIds.length, tokenIds.getD i 0 < model.vocabSize) ∧
        model.embeddedRows tokenIds 0 tokenIds.length = hidden := by
    intro hidden
    simp only [embeddedRows, Nat.zero_add]
    constructor
    · intro h
      obtain ⟨rows, hrows, rfl⟩ := collect_eq_ok_iff.mp h
      have hrow : ∀ i < tokenIds.length, tokenIds.getD i 0 < model.vocabSize ∧
          model.embed (tokenIds.getD i 0) i = rows i := by
        intro i hi
        have h := hrows i hi
        split at h
        · cases h
        · exact ⟨Nat.not_le.mp ‹_›, ok.inj h⟩
      exact ⟨fun i hi => (hrow i hi).1, ofRows_congr fun i hi => (hrow i hi).2⟩
    · rintro ⟨hlt, rfl⟩
      exact collect_eq_ok_iff.mpr ⟨_, fun i hi => if_neg (Nat.not_le.mpr (hlt i hi)), rfl⟩
  unfold forwardAll passRows
  simp only [bind_eq_ok_iff, require_eq_ok_iff, decide_eq_true_eq, hembed]
  constructor
  · rintro ⟨_, ⟨hne, hlength⟩, _, ⟨hlt, rfl⟩, hpass⟩
    exact ⟨⟨hne, hlength, hlt⟩, hpass⟩
  · rintro ⟨hvalid, hpass⟩
    exact ⟨(), ⟨hvalid.ne_nil, hvalid.length_le⟩, _, ⟨hvalid.lt_vocabSize, rfl⟩, hpass⟩

/-- The last row of a pass. -/
theorem forward_eq_ok (h : model.forwardAll tokenIds = .ok out) :
    model.forward tokenIds = .ok (rowAt model.vocabSize out (tokenIds.length - 1)) := by
  obtain ⟨hvalid, hpass⟩ := forwardAll_eq_ok_iff.mp h
  obtain ⟨_, -, hout⟩ := of_bind hpass
  have hlength : out.length = tokenIds.length * model.vocabSize := by
    rw [← ok.inj hout]
    exact length_linear
  obtain ⟨n, hn⟩ := Nat.exists_eq_succ_of_ne_zero (mt length_eq_zero_iff.mp hvalid.ne_nil)
  rw [forward, h]
  refine congrArg Except.ok ?_
  rw [hn, Nat.succ_mul] at hlength
  rw [rowAt, hn, Nat.succ_sub_one, hlength, Nat.add_sub_cancel, take_of_length_le]
  rw [length_drop, hlength, Nat.add_sub_cancel_left]

/-- With a causal mask, a pass over a longer context computes what the passes over its beginnings
compute. -/
theorem forwardAll_of_append (hmask : model.attention.causal = true) (hne : tokenIds ≠ [])
    (h : model.forwardAll (tokenIds ++ more) = .ok out) :
    model.forwardAll tokenIds = .ok (rowsAt model.vocabSize out 0 tokenIds.length) ∧
      model.forward tokenIds = .ok (rowAt model.vocabSize out (tokenIds.length - 1)) := by
  obtain ⟨hvalid, hpass⟩ := forwardAll_eq_ok_iff.mp h
  have hlength : (tokenIds ++ more).length = tokenIds.length + more.length := length_append
  have hpos : 0 < tokenIds.length := length_pos_iff.mpr hne
  have hall : model.forwardAll tokenIds = .ok (rowsAt model.vocabSize out 0 tokenIds.length) := by
    refine forwardAll_eq_ok_iff.mpr ⟨⟨hne, ?_, ?_⟩, ?_⟩
    · exact le_trans (by omega) hvalid.length_le
    · intro i hi
      rw [← getD_append _ more _ _ hi]
      exact hvalid.lt_vocabSize i (by omega)
    · exact passRows_of_append hpass hpos (by omega) fun _ => hmask
  refine ⟨hall, (forward_eq_ok hall).trans ?_⟩
  rw [rowAt_rowsAt (by omega), Nat.zero_add]

/-- Where the full pass returns, the cached one over the keys and values of all positions returns
the same. -/
theorem forwardCached_eq_forward (h : model.forward tokenIds = .ok logits) :
    model.ValidContext tokenIds ∧ model.forwardCached tokenIds
      (model.projectedRows model.keyWeight tokenIds 0 tokenIds.length)
      (model.projectedRows model.valueWeight tokenIds 0 tokenIds.length) = .ok logits := by
  obtain ⟨out, hall, -⟩ := of_bind h
  obtain ⟨hvalid, hpass⟩ := forwardAll_eq_ok_iff.mp hall
  have hpos : 0 < tokenIds.length := length_pos_iff.mpr hvalid.ne_nil
  have hlast : tokenIds.length - 1 + 1 ≤ tokenIds.length := by omega
  rw [← append_nil tokenIds] at hpass
  have hrow := passRows_of_append hpass Nat.one_pos hlast fun hnil => absurd rfl hnil
  rw [passRows, projectedRows, embeddedRows_one, ← rowAt_eq_rowsAt] at hrow
  obtain rfl := ok.inj ((forward_eq_ok hall).symm.trans h)
  -- the checks of the cached pass
  refine ⟨hvalid, bind_eq_ok_iff.mpr ⟨(), require_eq_ok_iff.mpr ?_, bind_eq_ok_iff.mpr
    ⟨(), require_eq_ok_iff.mpr ?_, bind_eq_ok_iff.mpr ⟨(), require_eq_ok_iff.mpr ?_, hrow⟩⟩⟩⟩
  · exact decide_eq_true ⟨hvalid.ne_nil, hvalid.length_le⟩
  · exact decide_eq_true ⟨length_projectedRows, length_projectedRows⟩
  · exact decide_eq_true (hvalid.lt_vocabSize _ hlast)

end Model

section Sample

open Model

instance : BitCast SampleReal := ⟨fun _ => 0, fun _ => 0⟩

/-- A model of dimension one, all of whose weights are one. -/
def sampleModel : Model SampleReal :=
  let ones (n : ℕ) : List SampleReal := List.replicate n (ofNat 1)
  let matrix (n : ℕ) : LinearWeight SampleReal :=
    ⟨n, 1, .fp32 (ones n), by simp [WeightStorage.Sized, ones]⟩
  ⟨4, 2, 1, 1, 1, ⟨.materialized, .fp32, 1, true⟩, ones 4, ones 2, ones 1, ones 1, matrix 1,
    matrix 1, matrix 1, matrix 1, ones 1, ones 1, matrix 1, ones 1, matrix 1, ones 1, ones 1,
    ones 1, matrix 4, ones 4, by decide, by decide, by decide, by decide, by decide, by decide,
    by decide, by decide, by decide, fun _ _ => rfl⟩

theorem forwardAll_of_append_two : ∃ out, sampleModel.forwardAll [1, 2] = .ok out ∧
    sampleModel.forward [1] = .ok (rowAt 4 out 0) := by
  obtain ⟨out, hout⟩ := exists_eq_ok_of_isOk (x := sampleModel.forwardAll ([1] ++ [2]))
    (by decide +kernel)
  exact ⟨out, hout, (forwardAll_of_append rfl (by decide) hout).2⟩

end Sample

end InferLab.Worker
