import InferLab.Checks
import InferLab.OrderedMaps
import InferLab.Primitives

/-!
# The checkpoint of a model bundle

`expected_tensors` and `validate_checkpoint` of `model-artifacts/src/verify.rs`: the tensors a
locked architecture must have, laid out one after the other in the order of their names, and the
check of a checkpoint file against them. The safetensors parser and SHA-256 are parameters.
-/

namespace InferLab.ModelArtifacts

open Std (TreeMap)
open OrderedMaps

/-- The locked file of a bundle that is checked here. -/
inductive LockedFile
  | checkpoint
  deriving DecidableEq, Repr

/-- The kinds of `ArtifactErrorKind` a checkpoint can be rejected with. -/
inductive ArtifactErrorKind
  | checkpointInvalid
  | headerMismatch
  | tensorInventoryMismatch
  | tensorDtypeMismatch
  | tensorShapeMismatch
  | tensorOffsetMismatch
  | nonFiniteTensor
  | arithmeticOverflow
  deriving DecidableEq, Repr

/-- Why a checkpoint is not taken. -/
structure ArtifactError where
  kind : ArtifactErrorKind
  file : Option LockedFile
  deriving DecidableEq, Repr

def ArtifactError.new (kind : ArtifactErrorKind) : ArtifactError := ⟨kind, none⟩

def ArtifactError.forFile (kind : ArtifactErrorKind) (file : LockedFile) : ArtifactError :=
  ⟨kind, some file⟩

/-- The sizes of a locked architecture, all of them `u64`. -/
structure ArchitectureLock where
  vocabSize : ℕ
  hiddenSize : ℕ
  intermediateSize : ℕ
  numHiddenLayers : ℕ
  deriving DecidableEq, Repr

/-- What the lock file says of the header. -/
structure CheckpointLock where
  headerBytes : ℕ
  headerSha256 : String
  deriving DecidableEq, Repr

/-- The part of the lock file that is checked here. -/
structure ModelLock where
  checkpoint : CheckpointLock
  architecture : ArchitectureLock
  deriving DecidableEq, Repr

/-- A tensor and its place in the file. -/
structure ExpectedTensor where
  shape : List ℕ
  elements : ℕ
  start : ℕ
  stop : ℕ
  deriving DecidableEq, Repr

/-- The bytes of the data a tensor takes. -/
def ExpectedTensor.range (tensor : ExpectedTensor) : ℕ × ℕ := (tensor.start, tensor.stop)

/-! ## The expected tensors -/

section Expected

-- `usize::MAX` of the platform.
variable (usizeMax : ℕ)

/-- A value, unless it exceeds the largest one. -/
def checked (max value : ℕ) : Except ArtifactError ℕ :=
  if value ≤ max then pure value else throw (.new .arithmeticOverflow)

def usizeValue (value : ℕ) : Except ArtifactError ℕ := checked usizeMax value

def fixedShapes (vocab hidden : ℕ) : List (String × List ℕ) :=
  [("embed_out.weight", [vocab, hidden]),
   ("gpt_neox.embed_in.weight", [vocab, hidden]),
   ("gpt_neox.final_layer_norm.bias", [hidden]),
   ("gpt_neox.final_layer_norm.weight", [hidden])]

def layerName (layer : ℕ) : String := "gpt_neox.layers." ++ toString layer

def layerShapes (hidden intermediate tripleHidden layer : ℕ) : List (String × List ℕ) :=
  [(layerName layer ++ ".attention.dense.bias", [hidden]),
   (layerName layer ++ ".attention.dense.weight", [hidden, hidden]),
   (layerName layer ++ ".attention.query_key_value.bias", [tripleHidden]),
   (layerName layer ++ ".attention.query_key_value.weight", [tripleHidden, hidden]),
   (layerName layer ++ ".input_layernorm.bias", [hidden]),
   (layerName layer ++ ".input_layernorm.weight", [hidden]),
   (layerName layer ++ ".mlp.dense_4h_to_h.bias", [hidden]),
   (layerName layer ++ ".mlp.dense_4h_to_h.weight", [hidden, intermediate]),
   (layerName layer ++ ".mlp.dense_h_to_4h.bias", [intermediate]),
   (layerName layer ++ ".mlp.dense_h_to_4h.weight", [intermediate, hidden]),
   (layerName layer ++ ".post_attention_layernorm.bias", [hidden]),
   (layerName layer ++ ".post_attention_layernorm.weight", [hidden])]

/-- The entries of `shapes`, in the order the source inserts them. -/
def shapeEntries (vocab hidden intermediate tripleHidden layers : ℕ) : List (String × List ℕ) :=
  fixedShapes vocab hidden ++
    (List.range layers).flatMap (layerShapes hidden intermediate tripleHidden)

def shapes (vocab hidden intermediate tripleHidden layers : ℕ) : TreeMap String (List ℕ) :=
  insertAll (shapeEntries vocab hidden intermediate tripleHidden layers) ∅

/-- The body of the loop over the shapes: `state` is the next offset and the tensors so far. -/
def placeTensor (state : ℕ × TreeMap String ExpectedTensor) (entry : String × List ℕ) :
    Except ArtifactError (ℕ × TreeMap String ExpectedTensor) := do
  let elements ← entry.2.foldlM
    (fun product dimension => checked usizeMax (product * dimension)) 1
  let byteLength ← checked usizeMax (elements * 2)
  let stop ← checked usizeMax (state.1 + byteLength)
  let elements64 ← checked u64Max elements
  pure (stop, state.2.insert entry.1 ⟨entry.2, elements64, state.1, stop⟩)

def expectedTensors (architecture : ArchitectureLock) :
    Except ArtifactError (TreeMap String ExpectedTensor) := do
  let hidden ← usizeValue usizeMax architecture.hiddenSize
  let intermediate ← usizeValue usizeMax architecture.intermediateSize
  let vocab ← usizeValue usizeMax architecture.vocabSize
  let layers ← usizeValue usizeMax architecture.numHiddenLayers
  let tripleHidden ← checked usizeMax (hidden * 3)
  let placed ← (shapes vocab hidden intermediate tripleHidden layers).toList.foldlM
    (placeTensor usizeMax) (0, ∅)
  pure placed.2

end Expected

/-! ## The parser -/

/-- A tensor as the header has it. -/
structure TensorInfo (Dtype : Type) where
  dtype : Dtype
  shape : List ℕ
  dataOffsets : ℕ × ℕ

/-- The part of the `safetensors` crate the check calls: the metadata of a file, by tensor name,
and the data of a tensor of a parsed file. -/
structure SafeTensors (Dtype Parsed : Type) where
  f16 : Dtype
  readMetadata : List UInt8 → Option (TreeMap String (TensorInfo Dtype))
  deserialize : List UInt8 → Option Parsed
  tensorData : Parsed → String → Option (List UInt8)

/-- `u64::from_le_bytes` and `u16::from_le_bytes`. -/
def fromLeBytes (bytes : List UInt8) : ℕ :=
  bytes.foldr (fun byte rest => byte.toNat + 256 * rest) 0

/-- What follows the length and the header of a file. -/
def payload (bytes : List UInt8) : List UInt8 :=
  bytes.drop (8 + fromLeBytes (bytes.take 8))

/-- The parser reports what it returns: the data of a tensor are the bytes of the payload between
the offsets the metadata gives for it. -/
structure SafeTensors.Lawful {Dtype Parsed : Type} (parser : SafeTensors Dtype Parsed) : Prop where
  tensorData_eq : ∀ {bytes metadata parsed name info data},
    parser.readMetadata bytes = some metadata → parser.deserialize bytes = some parsed →
    metadata[name]? = some info → parser.tensorData parsed name = some data →
    info.dataOffsets.2 ≤ (payload bytes).length ∧
      data = ((payload bytes).take info.dataOffsets.2).drop info.dataOffsets.1

/-! ## The check -/

/-- `chunks_exact(2)`. -/
def chunksExact2 : List UInt8 → List (List UInt8)
  | low :: high :: bytes => [low, high] :: chunksExact2 bytes
  | _ => []

def f16PayloadIsFinite (bytes : List UInt8) : Bool :=
  bytes.length % 2 == 0 && (chunksExact2 bytes).all fun chunk =>
    fromLeBytes chunk &&& 0x7c00 != 0x7c00

section Validate

variable {Dtype Parsed : Type} [DecidableEq Dtype]

/-- Ends with an error about the checkpoint unless a value is there. -/
def orInvalid {α : Type} (kind : ArtifactErrorKind) : Option α → Except ArtifactError α
  | some a => pure a
  | none => throw (.forFile kind .checkpoint)

def requireFile (kind : ArtifactErrorKind) (condition : Bool) : Except ArtifactError Unit :=
  require condition (ArtifactError.forFile kind .checkpoint)

/-- The metadata describe the expected tensor at this entry as `agrees` demands. -/
def describes (tensors : TreeMap String (TensorInfo Dtype))
    (agrees : TensorInfo Dtype → ExpectedTensor → Bool) (entry : String × ExpectedTensor) : Bool :=
  match tensors[entry.1]? with
  | some tensor => agrees tensor entry.2
  | none => false

/-- `validate_checkpoint`. The two texts of `sha256Hex` and the lock are compared as such. -/
def validateCheckpoint (usizeMax : ℕ) (sha256Hex : List UInt8 → String)
    (parser : SafeTensors Dtype Parsed) (bytes : List UInt8) (lock : ModelLock) :
    Except ArtifactError Unit := do
  requireFile .checkpointInvalid (8 ≤ bytes.length)
  let headerBytes := fromLeBytes (bytes.take 8)
  requireFile .headerMismatch (headerBytes == lock.checkpoint.headerBytes)
  requireFile .arithmeticOverflow (headerBytes ≤ usizeMax)
  let headerEnd := 8 + headerBytes
  requireFile .arithmeticOverflow (headerEnd ≤ usizeMax)
  requireFile .checkpointInvalid (headerEnd ≤ bytes.length)
  let header := (bytes.take headerEnd).drop 8
  requireFile .headerMismatch (sha256Hex header == lock.checkpoint.headerSha256)
  let tensors ← orInvalid .checkpointInvalid (parser.readMetadata bytes)
  let expected ← expectedTensors usizeMax lock.architecture
  requireFile .tensorInventoryMismatch
    (tensors.size == expected.size && tensors.keys == expected.keys)
  requireFile .tensorDtypeMismatch
    (expected.toList.all (describes tensors fun tensor _ => tensor.dtype == parser.f16))
  requireFile .tensorShapeMismatch
    (expected.toList.all (describes tensors fun tensor wanted => tensor.shape == wanted.shape))
  expected.toList.forM fun entry => do
    let tensor ← orInvalid .tensorInventoryMismatch tensors[entry.1]?
    requireFile .tensorOffsetMismatch (tensor.dataOffsets == entry.2.range)
  let parsed ← orInvalid .checkpointInvalid (parser.deserialize bytes)
  expected.keys.forM fun name => do
    let data ← orInvalid .checkpointInvalid (parser.tensorData parsed name)
    requireFile .nonFiniteTensor (f16PayloadIsFinite data)

end Validate

end InferLab.ModelArtifacts
