import InferLab.RowMajor
import InferLab.Worker.Basic

/-!
# Worker runtime: the attention kernels

`attentionForward` checks and rounds its inputs and runs one of two kernels over them. A
query reads the keys and values of its legal sources only.

The kernels' buffers are indexed by query and head; here each query and head is computed on
its own, from its share of the rows (`headShare`). The entries of the source's score buffer
behind the legal sources are never read. Sizes are natural numbers: the checks of
`checked_product`, which throw when a product of sizes overflows `std::size_t`, are left out.
-/

namespace InferLab.Worker

open RowMajor FloatOps

/-! ## Rounding to 16 bits -/

/-- How the inputs are rounded. -/
inductive AttentionPrecision
  | fp32
  | fp16
  | bf16
deriving Repr, DecidableEq

def floatToHalfBits (bits : UInt32) : UInt16 :=
  let sign := (bits >>> 16) &&& 0x8000
  let exponent := (bits >>> 23) &&& 0xFF
  let mantissa := bits &&& 0x7FFFFF
  if exponent = 0xFF then
    let halfMantissa : UInt32 := if mantissa = 0 then 0 else 0x0200
    (sign ||| 0x7C00 ||| halfMantissa).toUInt16
  else
    let halfExponent : ℤ := (exponent.toNat : ℤ) - 127 + 15
    if 31 ≤ halfExponent then (sign ||| 0x7C00).toUInt16
    else if halfExponent ≤ 0 then
      if halfExponent < -10 then sign.toUInt16
      else
        let mantissa := mantissa ||| 0x800000
        let shift := UInt32.ofNat (14 - halfExponent).toNat
        let halfMantissa := mantissa >>> shift
        let remainder := mantissa &&& ((1 <<< shift) - 1)
        let halfway := 1 <<< (shift - 1)
        if remainder > halfway ∨ (remainder = halfway ∧ halfMantissa &&& 1 ≠ 0) then
          (sign ||| (halfMantissa + 1)).toUInt16
        else (sign ||| halfMantissa).toUInt16
    else
      let halfMantissa := mantissa >>> 13
      let remainder := mantissa &&& 0x1FFF
      let encode (exponent mantissa : UInt32) := (sign ||| (exponent <<< 10) ||| mantissa).toUInt16
      if remainder > 0x1000 ∨ (remainder = 0x1000 ∧ halfMantissa &&& 1 ≠ 0) then
        -- a carry out of the mantissa moves to the next exponent
        if halfMantissa + 1 = 0x400 then
          let exponent := UInt32.ofNat (halfExponent + 1).toNat
          if 31 ≤ exponent then (sign ||| 0x7C00).toUInt16 else encode exponent 0
        else encode (UInt32.ofNat halfExponent.toNat) (halfMantissa + 1)
      else encode (UInt32.ofNat halfExponent.toNat) halfMantissa

/-- The loop that shifts a subnormal's mantissa up to its leading bit; ten shifts bring any
mantissa but zero there. -/
def normalizeMantissa (fuel : ℕ) (mantissa : UInt32) (shift : ℕ) : UInt32 × ℕ :=
  match fuel with
  | 0 => (mantissa, shift)
  | fuel + 1 =>
    if mantissa &&& 0x0400 = 0 then normalizeMantissa fuel (mantissa <<< 1) (shift + 1)
    else (mantissa, shift)

def halfBitsToFloat (half : UInt16) : UInt32 :=
  let sign := (half.toUInt32 &&& 0x8000) <<< 16
  let exponent := (half.toUInt32 >>> 10) &&& 0x1F
  let mantissa := half.toUInt32 &&& 0x03FF
  if exponent = 0 then
    if mantissa = 0 then sign
    else
      let (normalized, shift) := normalizeMantissa 10 mantissa 0
      let floatExponent := UInt32.ofNat (127 - 15 - shift)
      sign ||| (floatExponent <<< 23) ||| ((normalized &&& 0x03FF) <<< 13)
  else if exponent = 0x1F then sign ||| (0x7F800000 : UInt32) ||| (mantissa <<< 13)
  else sign ||| ((exponent + (127 - 15)) <<< 23) ||| (mantissa <<< 13)

/-- `(bits + rounding) >> 16`, back in the upper half of a word. -/
def roundToBfloat (bits : UInt32) : UInt32 :=
  let rounding := (0x7FFF : UInt32) + ((bits >>> 16) &&& 1)
  ((bits + rounding) >>> 16).toUInt16.toUInt32 <<< 16

variable {F : Type} [FloatOps F]

def roundAttentionValue [BitCast F] (value : F) : AttentionPrecision → F
  | .fp32 => value
  | .fp16 => BitCast.ofBits (halfBitsToFloat (floatToHalfBits (BitCast.toBits value)))
  | .bf16 => BitCast.ofBits (roundToBfloat (BitCast.toBits value))

/-- The rounded inputs, all of which have to be finite. -/
def prepare [BitCast F] (input : List F) (precision : AttentionPrecision) :
    Except ModelError (List F) :=
  if input.all isFinite then .ok (input.map (roundAttentionValue · precision))
  else .error .attentionInput

/-! ## The kernels -/

/-- All scores at once, or tile by tile. -/
inductive AttentionAlgorithm
  | materialized
  | onlineTiled
deriving Repr, DecidableEq

/-- How attention is computed. -/
structure AttentionConfig where
  algorithm : AttentionAlgorithm
  precision : AttentionPrecision
  tileTokens : ℕ
  causal : Bool
deriving Repr, DecidableEq

/-- How many keys a query may read. -/
def legalSources (query keyValueTokens queryStartPosition : ℕ) (causal : Bool) : ℕ :=
  if causal then min keyValueTokens (queryStartPosition + query + 1) else keyValueTokens

/-- The part of a token's row that belongs to one head. -/
def headShare (headDimension head : ℕ) (row : List F) : List F :=
  (row.drop (head * headDimension)).take headDimension

/-- The scaled score of a query against a key. -/
def attentionScore (scale : F) (query key : List F) : F :=
  (List.zip query key).foldl (fun score p => score + p.1 * p.2) 0 * scale

/-- One query and head of `materialized_attention`, over the keys and values it may read. -/
def materializedHead (scale : F) (query : List F) (keys values : List (List F)) : List F :=
  let scores := keys.map (attentionScore scale query)
  let maximum := scores.foldl FloatOps.max negInf
  let exponentials := scores.map fun score => exp (score - maximum)
  let denominator := exponentials.foldl (· + ·) 0
  let probabilities := exponentials.map (· / denominator)
  (List.range query.length).map fun column =>
    (List.zip probabilities values).foldl (fun sum p => sum + p.1 * p.2.getD column 0) 0

/-- The running maximum, denominator and numerators of `online_tiled_attention`. -/
structure OnlineState (F : Type) where
  runningMaximum : F
  runningDenominator : F
  numerator : List F

/-- One tile of keys and values. -/
def onlineTile (scale : F) (query : List F) (tile : List (List F × List F))
    (state : OnlineState F) : OnlineState F :=
  let tileScores := tile.map fun p => attentionScore scale query p.1
  let tileMaximum := tileScores.foldl FloatOps.max negInf
  let newMaximum := FloatOps.max state.runningMaximum tileMaximum
  let previousScale :=
    if isInf state.runningMaximum then 0 else exp (state.runningMaximum - newMaximum)
  let rescaled : OnlineState F :=
    { runningMaximum := newMaximum
      runningDenominator := state.runningDenominator * previousScale
      numerator := state.numerator.map (· * previousScale) }
  (List.zip tileScores tile).foldl (fun state p =>
    let probability := exp (p.1 - newMaximum)
    { state with
      runningDenominator := state.runningDenominator + probability
      numerator := state.numerator.mapIdx fun column sum =>
        sum + probability * p.2.2.getD column 0 }) rescaled

/-- One query and head of `online_tiled_attention`. -/
def onlineHead (tileTokens : ℕ) (scale : F) (query : List F) (keys values : List (List F)) :
    Except ModelError (List F) :=
  let sources := List.zip keys values
  let tiles := (sources.length + tileTokens - 1) / tileTokens
  let final := (List.range tiles).foldl
    (fun state k => onlineTile scale query ((sources.drop (k * tileTokens)).take tileTokens) state)
    { runningMaximum := negInf, runningDenominator := 0,
      numerator := List.replicate query.length 0 }
  if ¬ isFinite final.runningDenominator ∨ lessEqual final.runningDenominator 0 then
    .error .attentionNormalizer
  else .ok (final.numerator.map (· / final.runningDenominator))

/-- One query and head, over the keys and values it may read. -/
def attentionHead (config : AttentionConfig) (scale : F) (query : List F)
    (keys values : List (List F)) : Except ModelError (List F) :=
  match config.algorithm with
  | .materialized => .ok (materializedHead scale query keys values)
  | .onlineTiled => onlineHead config.tileTokens scale query keys values

lemma length_onlineTile {scale : F} {query : List F} {tile : List (List F × List F)}
    {state : OnlineState F} :
    (onlineTile scale query tile state).numerator.length = state.numerator.length := by
  have hfold : ∀ (p : F × List F × List F → F) (l : List (F × List F × List F))
      (st : OnlineState F),
      (l.foldl (fun state x => { state with
        runningDenominator := state.runningDenominator + p x
        numerator := state.numerator.mapIdx fun column sum =>
          sum + p x * x.2.2.getD column 0 }) st).numerator.length = st.numerator.length := by
    intro p l
    induction l with
    | nil => intro st; rfl
    | cons x l ih => intro st; rw [List.foldl_cons, ih]; simp
  unfold onlineTile
  rw [hfold fun x => exp (x.1 - _)]
  simp

lemma length_attentionHead {config : AttentionConfig} {scale : F} {query out : List F}
    {keys values : List (List F)} (h : attentionHead config scale query keys values = .ok out) :
    out.length = query.length := by
  unfold attentionHead at h
  cases halg : config.algorithm with
  | materialized =>
    simp only [halg, Except.ok.injEq] at h
    simp [← h, materializedHead]
  | onlineTiled =>
    simp only [halg, onlineHead] at h
    have hfold : ∀ (l : List ℕ) (tile : ℕ → List (List F × List F)) (st : OnlineState F),
        (l.foldl (fun state k => onlineTile scale query (tile k) state) st).numerator.length =
          st.numerator.length := by
      intro l tile
      induction l with
      | nil => intro st; rfl
      | cons k l ih => intro st; rw [List.foldl_cons, ih, length_onlineTile]
    split at h
    · cases h
    · rw [Except.ok.injEq] at h
      rw [← h, List.length_map, hfold]
      simp

/-- All heads of one query, over the first `sources` rows of the keys and values. -/
def attentionRow (config : AttentionConfig) (heads headDimension : ℕ) (query : List F)
    (keys values : List F) (sources : ℕ) : Except ModelError (List F) :=
  let scale : F := ofNat 1 / sqrt (ofNat headDimension)
  let tokenWidth := heads * headDimension
  collect heads fun head =>
    let share (xs : List F) := (List.range sources).map fun source =>
      headShare headDimension head (rowAt tokenWidth xs source)
    attentionHead config scale (headShare headDimension head query) (share keys) (share values)

variable [BitCast F]

def attentionForward (queries keys values : List F)
    (queryTokens keyValueTokens heads headDimension queryStartPosition : ℕ)
    (config : AttentionConfig) : Except ModelError (List F) := do
  require (0 < queryTokens ∧ 0 < keyValueTokens ∧ 0 < heads ∧ 0 < headDimension)
    ModelError.attentionDimensions
  require (0 < config.tileTokens ∧ config.tileTokens ≤ 4096) ModelError.attentionTileTokens
  require (¬ (config.causal ∧ (keyValueTokens ≤ queryStartPosition ∨
    keyValueTokens - queryStartPosition < queryTokens))) ModelError.causalPositions
  let preparedQueries ← prepare queries config.precision
  let preparedKeys ← prepare keys config.precision
  let preparedValues ← prepare values config.precision
  collect queryTokens fun query =>
    attentionRow config heads headDimension (rowAt (heads * headDimension) preparedQueries query)
      preparedKeys preparedValues
      (legalSources query keyValueTokens queryStartPosition config.causal)

/-! ## What a query's output depends on -/

/-- What the shape of a batch has to satisfy. -/
def AttentionShape (config : AttentionConfig) (queryTokens keyValueTokens heads headDimension
    queryStartPosition : ℕ) : Prop :=
  (0 < queryTokens ∧ 0 < keyValueTokens ∧ 0 < heads ∧ 0 < headDimension) ∧
  (0 < config.tileTokens ∧ config.tileTokens ≤ 4096) ∧
  ¬ (config.causal ∧ (keyValueTokens ≤ queryStartPosition ∨
    keyValueTokens - queryStartPosition < queryTokens))

end InferLab.Worker
