import InferLab.Worker.Incremental

/-!
# Worker runtime: a session with and without a cache

A session without a draft model recomputes its context for every token, or keeps the keys and
values of it in buffers that it clears when a full context loses a token. Of the counters of a
session only that of the generated tokens is kept; speculation, pages and rendered pieces are left
out. `select` stands for the sampler with the settings of a call.
-/

namespace InferLab.Worker

open Except

/-- Whether keys and values are kept. -/
inductive CacheMode
  | recompute
  | contiguous

/-- Why a call fails. -/
inductive SessionError
  | cacheState
  | model (error : ModelError)

def eosToken : Token := 2

/-- A generation under way. -/
structure Session (F R : Type) where
  context : List Token
  keyCache : List F
  valueCache : List F
  generated : ℕ
  finished : Bool
  randomState : R
  /-- the tokens handed out so far, with the scores they were selected from -/
  emitted : List (Token × List F)

namespace Session

variable {F R ι : Type} [FloatOps F] (model : Model F)

/-- Adds the key and the value of one position. -/
def cacheRow (session : Session F R) (position : ℕ) : Except SessionError (Session F R) := do
  let (key, value) ←
    (model.appendKeyValue (session.context.getD position 0) position).mapError .model
  pure { session with
    keyCache := session.keyCache ++ key
    valueCache := session.valueCache ++ value }

def ensureCache (session : Session F R) : Except SessionError (Session F R) := do
  let cachedTokens := session.keyCache.length / model.dimension
  require (session.keyCache.length = session.valueCache.length ∧
    session.keyCache.length % model.dimension = 0 ∧ cachedTokens ≤ session.context.length)
    SessionError.cacheState
  (List.range' cachedTokens (session.context.length - cachedTokens)).foldlM (cacheRow model) session

/-- Adds a token. A full context loses its second token, and what was cached of it. -/
def appendContext (mode : CacheMode) (session : Session F R) (token : Token) : Session F R :=
  let context := session.context ++ [token]
  if context.length ≤ model.contextLength then { session with context := context }
  else
    match mode with
    | .recompute => { session with context := context.eraseIdx 1 }
    | .contiguous =>
      { session with context := context.eraseIdx 1, keyCache := [], valueCache := [] }

/-- The session with the keys and values of its first `n` tokens cached. -/
def withCache (session : Session F R) (n : ℕ) : Session F R :=
  { session with
    keyCache := model.projectedRows model.keyWeight session.context 0 n
    valueCache := model.projectedRows model.valueWeight session.context 0 n }

variable {model} {s t : Session F R} {n : ℕ}

lemma foldlM_cacheRow {k : ℕ} (hvalid : model.ValidContext s.context)
    (hle : n + k ≤ s.context.length) :
    (List.range' n k).foldlM (cacheRow model) (s.withCache model n) =
      .ok (s.withCache model (n + k)) := by
  induction k with
  | zero => rfl
  | succ k ih =>
    have hrow : cacheRow model (s.withCache model (n + k)) (n + k) =
        .ok (s.withCache model (n + k + 1)) := by
      rw [cacheRow, withCache, Model.appendKeyValue_eq hvalid (by omega), withCache,
        Model.projectedRows_succ, Model.projectedRows_succ]
      rfl
    rw [List.range'_1_concat, List.foldlM_append, ih (by omega)]
    exact bind_eq_ok_iff.mpr ⟨_, rfl, bind_eq_ok_iff.mpr ⟨_, hrow, rfl⟩⟩

lemma ensureCache_withCache (hvalid : model.ValidContext s.context)
    (hn : n ≤ s.context.length) :
    (s.withCache model n).ensureCache model = .ok (s.withCache model s.context.length) := by
  have hdiv : (s.withCache model n).keyCache.length / model.dimension = n := by
    rw [withCache, Model.length_projectedRows, Nat.mul_div_cancel n model.dimension_pos]
  have hloop := foldlM_cacheRow hvalid (Nat.add_sub_of_le hn).le
  rw [Nat.add_sub_of_le hn] at hloop
  refine bind_eq_ok_iff.mpr ⟨(), require_eq_ok_iff.mpr (decide_eq_true ⟨?_, ?_, ?_⟩), ?_⟩
  · exact Model.length_projectedRows.trans Model.length_projectedRows.symm
  · rw [withCache, Model.length_projectedRows, Nat.mul_mod_left]
  · exact hdiv.le.trans hn
  · rw [hdiv]
    exact hloop

/-- A token leaves the cache to be of a beginning of the context. -/
theorem appendContext_withCache (model : Model F) (s : Session F R) (token : Token) :
    ∃ m ≤ (s.appendContext model .recompute token).context.length,
      (s.withCache model s.context.length).appendContext model .contiguous token =
        (s.appendContext model .recompute token).withCache model m := by
  by_cases hfit : (s.context ++ [token]).length ≤ model.contextLength
  · refine ⟨s.context.length, ?_, (if_pos hfit).trans ?_⟩ <;>
      simp only [appendContext, withCache, if_pos hfit]
    · simp
    · rw [Model.projectedRows_append (by omega), Model.projectedRows_append (by omega)]
  · refine ⟨0, Nat.zero_le _, (if_neg hfit).trans ?_⟩
    simp only [appendContext, withCache, if_neg hfit]
    rfl

variable [BitCast F] (model) (maxTokens : ℕ)
  (select : ι → List F → List Token → R → Except ModelError (Token × R))

/-- `inferlab_session_next`. -/
def next (mode : CacheMode) (session : Session F R) (input : ι) :
    Except SessionError (Session F R) :=
  if session.finished || decide (maxTokens ≤ session.generated) then pure session
  else do
    let session ← match mode with
      | .recompute => pure session
      | .contiguous => session.ensureCache model
    let scores ← (match mode with
      | .recompute => model.forward session.context
      | .contiguous => model.forwardCached session.context session.keyCache
          session.valueCache).mapError .model
    let (selected, randomState) ←
      (select input scores session.context session.randomState).mapError .model
    pure { session.appendContext model mode selected with
      generated := session.generated + 1
      finished := selected == eosToken
      randomState := randomState
      emitted := session.emitted ++ [(selected, scores)] }

variable {model maxTokens select} {input : ι} {inputs : List ι}

lemma next_contiguous (h : s.next model maxTokens select .recompute input = .ok t)
    (hn : n ≤ s.context.length) :
    ∃ m ≤ t.context.length, (s.withCache model n).next model maxTokens select .contiguous input =
      .ok (t.withCache model m) := by
  unfold next at h ⊢
  split at h
  next hdone =>
    obtain rfl := ok.inj h
    exact ⟨n, hn, if_pos hdone⟩
  next hmore =>
    obtain ⟨_, hs, h⟩ := of_bind h
    obtain rfl := ok.inj hs
    obtain ⟨scores, hscores, h⟩ := of_bind h
    obtain ⟨⟨selected, randomState⟩, hselect, h⟩ := of_bind h
    obtain ⟨hvalid, hcached⟩ := Model.forwardCached_eq_forward (of_mapError hscores)
    obtain ⟨m, hm, happend⟩ := appendContext_withCache model s selected
    obtain rfl := ok.inj h
    refine ⟨m, hm, (if_neg hmore).trans ?_⟩
    refine bind_eq_ok_iff.mpr ⟨_, ensureCache_withCache hvalid hn, bind_eq_ok_iff.mpr
      ⟨scores, mapError_eq_ok_iff.mpr hcached, bind_eq_ok_iff.mpr ⟨_, hselect, ?_⟩⟩⟩
    simp only [happend]
    rfl

/-- A session that has cached its first `n` tokens and goes on caching hands out the same tokens
with the same scores as one that recomputes, and ends in the same state but for the caches. -/
theorem contiguous_run_eq_recompute
    (h : inputs.foldlM (next model maxTokens select .recompute) s = .ok t)
    (hn : n ≤ s.context.length) :
    ∃ m ≤ t.context.length, inputs.foldlM (next model maxTokens select .contiguous)
      (s.withCache model n) = .ok (t.withCache model m) := by
  induction inputs generalizing s n with
  | nil =>
    obtain rfl := ok.inj h
    exact ⟨n, hn, rfl⟩
  | cons input inputs ih =>
    obtain ⟨u, hnext, hrest⟩ := of_bind h
    obtain ⟨m, hm, hnext'⟩ := next_contiguous hnext hn
    obtain ⟨k, hk, hrest'⟩ := ih hrest hm
    exact ⟨k, hk, bind_eq_ok_iff.mpr ⟨_, hnext', hrest'⟩⟩

theorem contiguous_run_eq_recompute_three : ∃ t : Session SampleReal Unit, ∃ m,
    [3, 0, 3].foldlM (next sampleModel 4 (fun token _ _ r => .ok (token, r)) .contiguous)
      ⟨[1], [], [], 0, false, (), []⟩ = .ok (t.withCache sampleModel m) := by
  obtain ⟨t, ht⟩ := exists_eq_ok_of_isOk (x := [3, 0, 3].foldlM (next sampleModel 4
    (fun token _ _ r => .ok (token, r)) .recompute) ⟨[1], [], [], 0, false, (), []⟩)
    (by decide +kernel)
  obtain ⟨m, -, hm⟩ := contiguous_run_eq_recompute ht (Nat.zero_le _)
  exact ⟨t, m, hm⟩

end Session

end InferLab.Worker
