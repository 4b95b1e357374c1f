import InferLab.Worker.Attention

/-!
# Worker runtime: the decoder

The one-layer decoder with its two forward passes. `forwardAll` runs over a whole context and
`forwardCached` over its last token, given the keys and values of all of it;
`appendKeyValue` computes the key and the value that a token at a position adds.

A `Model` carries what `Model::load` has checked; its vocabulary, which no pass reads, is left out.
-/

namespace InferLab.Worker

open RowMajor FloatOps

variable {F : Type} [FloatOps F]

/-! ## Weights -/

def int4GroupSize : ℕ := 8

def groupsPerRow (columns : ℕ) : ℕ := (columns + int4GroupSize - 1) / int4GroupSize

/-- The values of a weight matrix, in one of the quantization modes. -/
inductive WeightStorage (F : Type)
  | fp32 (values : List F)
  | int8 (values : List Int8) (scales : List F)
  | int4 (values : List UInt8) (scales : List F) (zeroPoints : List UInt8)

def WeightStorage.Sized (rows columns : ℕ) : WeightStorage F → Prop
  | .fp32 values => values.length = rows * columns
  | .int8 values scales => values.length = rows * columns ∧ scales.length = rows
  | .int4 values scales zeroPoints =>
    values.length = (rows * columns + 1) / 2 ∧
      scales.length = rows * groupsPerRow columns ∧
      zeroPoints.length = rows * groupsPerRow columns

/-- A weight matrix in its storage. -/
structure LinearWeight (F : Type) where
  rows : ℕ
  columns : ℕ
  storage : WeightStorage F
  sized : storage.Sized rows columns

/-- The floats of a weight matrix that is not quantized, as they were read. -/
def LinearWeight.floats (weight : LinearWeight F) : List F :=
  match weight.storage with
  | .fp32 values => values
  | _ => []

/-- The weight at an index inside the shape. (Outside of it the source throws; its only
callers loop over the shape.) -/
def LinearWeight.valueAt (weight : LinearWeight F) (row column : ℕ) : F :=
  let index := row * weight.columns + column
  match weight.storage with
  | .fp32 values => values.getD index 0
  | .int8 values scales => ofRat ((values.getD index 0).toInt : ℚ) * scales.getD row 0
  | .int4 values scales zeroPoints =>
    let packed := values.getD (index / 2) 0
    let value := if index % 2 = 0 then packed &&& 0x0F else packed >>> 4
    let metadata := row * groupsPerRow weight.columns + column / int4GroupSize
    (ofNat value.toNat - ofNat (zeroPoints.getD metadata 0).toNat) * scales.getD metadata 0

/-- A loaded model, with what loading it has checked. -/
structure Model (F : Type) [FloatOps F] where
  vocabSize : ℕ
  contextLength : ℕ
  dimension : ℕ
  heads : ℕ
  feedForwardDimension : ℕ
  attention : AttentionConfig
  tokenEmbedding : List F
  positionEmbedding : List F
  ln1Weight : List F
  ln1Bias : List F
  queryWeight : LinearWeight F
  keyWeight : LinearWeight F
  valueWeight : LinearWeight F
  attentionOutputWeight : LinearWeight F
  ln2Weight : List F
  ln2Bias : List F
  feedForwardInWeight : LinearWeight F
  feedForwardInBias : List F
  feedForwardOutWeight : LinearWeight F
  feedForwardOutBias : List F
  finalNormWeight : List F
  finalNormBias : List F
  lmHeadWeight : LinearWeight F
  lmHeadBias : List F
  four_le_vocabSize : 4 ≤ vocabSize
  two_le_contextLength : 2 ≤ contextLength
  dimension_pos : 0 < dimension
  heads_pos : 0 < heads
  feedForwardDimension_pos : 0 < feedForwardDimension
  heads_dvd : dimension % heads = 0
  tileTokens : 0 < attention.tileTokens ∧ attention.tileTokens ≤ 4096
  tensors : [tokenEmbedding, positionEmbedding, ln1Weight, ln1Bias, ln2Weight, ln2Bias,
      feedForwardInBias, feedForwardOutBias, finalNormWeight, finalNormBias, lmHeadBias].map
        List.length =
    [vocabSize * dimension, contextLength * dimension, dimension, dimension, dimension, dimension,
      feedForwardDimension, dimension, dimension, dimension, vocabSize]
  weights : [queryWeight, keyWeight, valueWeight, attentionOutputWeight, feedForwardInWeight,
      feedForwardOutWeight, lmHeadWeight].map (fun weight => (weight.rows, weight.columns)) =
    [(dimension, dimension), (dimension, dimension), (dimension, dimension),
      (dimension, dimension), (feedForwardDimension, dimension),
      (dimension, feedForwardDimension), (vocabSize, dimension)]
  finite : ∀ x ∈ [tokenEmbedding, positionEmbedding, ln1Weight, ln1Bias, ln2Weight, ln2Bias,
      feedForwardInBias, feedForwardOutBias, finalNormWeight, finalNormBias, lmHeadBias].flatten ++
      [queryWeight, keyWeight, valueWeight, attentionOutputWeight, feedForwardInWeight,
        feedForwardOutWeight, lmHeadWeight].flatMap LinearWeight.floats,
    isFinite x = true

/-! ## The layers -/

/-- `kLayerNormEpsilon`. -/
def layerNormEpsilon : F := ofRat (1 / 100000)

def layerNormRow (columns : ℕ) (weight bias row : List F) : List F :=
  let mean := accumulate columns 0 (fun column => row.getD column 0) / ofNat columns
  let variance := accumulate columns 0 (fun column =>
    let centered := row.getD column 0 - mean
    centered * centered) / ofNat columns
  let inverseDeviation := ofNat 1 / sqrt (variance + layerNormEpsilon)
  (List.range columns).map fun column =>
    (row.getD column 0 - mean) * inverseDeviation * weight.getD column 0 + bias.getD column 0

def layerNorm (input : List F) (rows columns : ℕ) (weight bias : List F) : List F :=
  ofRows rows fun row => layerNormRow columns weight bias (rowAt columns input row)

def linearRow (inputColumns : ℕ) (weight : LinearWeight F) (outputColumns : ℕ)
    (bias : Option (List F)) (row : List F) : List F :=
  (List.range outputColumns).map fun out =>
    accumulate inputColumns (bias.elim 0 (·.getD out 0)) fun i =>
      row.getD i 0 * weight.valueAt out i

def linear (input : List F) (rows inputColumns : ℕ) (weight : LinearWeight F)
    (outputColumns : ℕ) (bias : Option (List F)) : List F :=
  ofRows rows fun row => linearRow inputColumns weight outputColumns bias
    (rowAt inputColumns input row)

def gelu (value : F) : F :=
  let coefficient : F := ofRat 0.7978845608028654
  ofRat 0.5 * value *
    (ofNat 1 + tanh (coefficient * (value + ofRat 0.044715 * value * value * value)))

namespace Model

variable [BitCast F] (model : Model F)

/-- The sum of a token's and its position's embedding. -/
def embed (token : Token) (position : ℕ) : List F :=
  (List.range model.dimension).map fun column =>
    model.tokenEmbedding.getD (token * model.dimension + column) 0 +
      model.positionEmbedding.getD (position * model.dimension + column) 0

/-- What both passes do with the attention's output: the residual connection, the feed
forward layer and the language head. -/
def finish (rows : ℕ) (hidden attentionContext : List F) : List F :=
  let attentionOutput :=
    linear attentionContext rows model.dimension model.attentionOutputWeight model.dimension none
  let hidden := List.zipWith (· + ·) hidden attentionOutput
  let feedForwardInput := layerNorm hidden rows model.dimension model.ln2Weight model.ln2Bias
  let expanded := linear feedForwardInput rows model.dimension model.feedForwardInWeight
    model.feedForwardDimension (some model.feedForwardInBias)
  let contracted := linear (expanded.map gelu) rows model.feedForwardDimension
    model.feedForwardOutWeight model.dimension (some model.feedForwardOutBias)
  let hidden := List.zipWith (· + ·) hidden contracted
  let finalHidden :=
    layerNorm hidden rows model.dimension model.finalNormWeight model.finalNormBias
  linear finalHidden rows model.dimension model.lmHeadWeight model.vocabSize
    (some model.lmHeadBias)

/-- The logits of every position of a context, one row after another. -/
def forwardAll (tokenIds : List Token) : Except ModelError (List F) := do
  require (tokenIds ≠ [] ∧ tokenIds.length ≤ model.contextLength) ModelError.forwardContextLength
  let tokens := tokenIds.length
  let hidden ← collect tokens fun token =>
    let tokenId := tokenIds.getD token 0
    if model.vocabSize ≤ tokenId then .error .forwardToken else .ok (model.embed tokenId token)
  let normalized := layerNorm hidden tokens model.dimension model.ln1Weight model.ln1Bias
  let queries := linear normalized tokens model.dimension model.queryWeight model.dimension none
  let keys := linear normalized tokens model.dimension model.keyWeight model.dimension none
  let values := linear normalized tokens model.dimension model.valueWeight model.dimension none
  let attentionContext ← attentionForward queries keys values tokens tokens model.heads
    (model.dimension / model.heads) 0 model.attention
  pure (model.finish tokens hidden attentionContext)

/-- The logits of the last position. -/
def forward (tokenIds : List Token) : Except ModelError (List F) := do
  let all ← model.forwardAll tokenIds
  pure (all.drop (all.length - model.vocabSize))

/-- The key and the value that a token at a position adds to a cache. -/
def appendKeyValue (tokenId : Token) (position : ℕ) : Except ModelError (List F × List F) := do
  require (tokenId < model.vocabSize ∧ position < model.contextLength) ModelError.keyValueBounds
  let hidden := model.embed tokenId position
  let normalized := layerNorm hidden 1 model.dimension model.ln1Weight model.ln1Bias
  pure (linear normalized 1 model.dimension model.keyWeight model.dimension none,
    linear normalized 1 model.dimension model.valueWeight model.dimension none)

/-- The logits of the last position, from the keys and values of all of them. -/
def forwardCached (tokenIds : List Token) (keyCache valueCache : List F) :
    Except ModelError (List F) := do
  require (tokenIds ≠ [] ∧ tokenIds.length ≤ model.contextLength) ModelError.cachedContextLength
  let tokens := tokenIds.length
  require (keyCache.length = tokens * model.dimension ∧
    valueCache.length = tokens * model.dimension) ModelError.cacheLength
  let position := tokens - 1
  let selectedToken := tokenIds.getD position 0
  require (selectedToken < model.vocabSize) ModelError.cachedToken
  let hidden := model.embed selectedToken position
  let normalized := layerNorm hidden 1 model.dimension model.ln1Weight model.ln1Bias
  let query := linear normalized 1 model.dimension model.queryWeight model.dimension none
  let attentionContext ← attentionForward query keyCache valueCache 1 tokens model.heads
    (model.dimension / model.heads) position model.attention
  pure (model.finish 1 hidden attentionContext)

end Model

end InferLab.Worker
