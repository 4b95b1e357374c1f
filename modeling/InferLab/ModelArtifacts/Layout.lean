import InferLab.BitFields
import InferLab.ModelArtifacts.Checkpoint
import InferLab.Tiling
import Mathlib.Algebra.BigOperators.Group.List.Basic
import Mathlib.Tactic.Ring

/-!
# The layout of a checkpoint

The expected tensors of an architecture fill the payload without gap or overlap, in the order of
their names, which is not the order of the layers. A checkpoint that passes the check has these
tensors and no others, and each of its half-precision numbers is finite.
-/

namespace InferLab.ModelArtifacts

open List Option

open Std (TreeMap)
open OrderedMaps Tiling

/-! ## Names -/

def layerSuffixes : List String :=
  [".attention.dense.bias", ".attention.dense.weight", ".attention.query_key_value.bias",
   ".attention.query_key_value.weight", ".input_layernorm.bias", ".input_layernorm.weight",
   ".mlp.dense_4h_to_h.bias", ".mlp.dense_4h_to_h.weight", ".mlp.dense_h_to_4h.bias",
   ".mlp.dense_h_to_4h.weight", ".post_attention_layernorm.bias",
   ".post_attention_layernorm.weight"]

def fixedNames : List String :=
  ["embed_out.weight", "gpt_neox.embed_in.weight", "gpt_neox.final_layer_norm.bias",
   "gpt_neox.final_layer_norm.weight"]

lemma names_shapeEntries (vocab hidden intermediate tripleHidden layers : ℕ) :
    (shapeEntries vocab hidden intermediate tripleHidden layers).map Prod.fst =
      fixedNames ++ (List.range layers).flatMap fun layer =>
        layerSuffixes.map (layerName layer ++ ·) := by
  unfold shapeEntries
  rw [map_append, map_flatMap]
  rfl

lemma toList_layerName (layer : ℕ) :
    (layerName layer).toList = "gpt_neox.layers.".toList ++ Nat.toDigits 10 layer := by
  unfold layerName
  rw [String.toList_append]
  show _ ++ (Nat.repr layer).toList = _
  rw [toList_repr]

/-- The first separator splits a text in one way only. -/
theorem append_separator_inj {α : Type} {separator : α} {first first' second second' : List α}
    (hfirst : separator ∉ first) (hfirst' : separator ∉ first')
    (h : first ++ separator :: second = first' ++ separator :: second') :
    first = first' ∧ second = second' := by
  induction first generalizing first' with
  | nil =>
    cases first' with
    | nil => exact ⟨rfl, (List.cons.inj h).2⟩
    | cons c first' =>
      have hc : separator = c := (List.cons.inj h).1
      exact absurd (hc ▸ mem_cons_self) hfirst'
  | cons c first ih =>
    cases first' with
    | nil =>
      have hc : c = separator := (List.cons.inj h).1
      exact absurd (hc ▸ mem_cons_self) hfirst
    | cons c' first' =>
      have hparts := List.cons.inj h
      have hrest := ih (fun hmem => hfirst (mem_cons_of_mem c hmem))
        (fun hmem => hfirst' (mem_cons_of_mem c' hmem)) hparts.2
      exact ⟨by rw [hparts.1, hrest.1], hrest.2⟩

lemma exists_dot_of_mem_layerSuffixes {suffix : String} (h : suffix ∈ layerSuffixes) :
    ∃ rest, suffix.toList = '.' :: rest := by
  have hdot : ∀ s ∈ layerSuffixes, s.toList.head? = some '.' := by decide
  exact List.head?_eq_some_iff.mp (hdot suffix h)

/-- The name of a layer's tensor tells the layer and the tensor. -/
theorem layerName_append_inj {layer layer' : ℕ} {suffix suffix' : String}
    (hsuffix : suffix ∈ layerSuffixes) (hsuffix' : suffix' ∈ layerSuffixes)
    (h : layerName layer ++ suffix = layerName layer' ++ suffix') :
    layer = layer' ∧ suffix = suffix' := by
  obtain ⟨rest, hrest⟩ := exists_dot_of_mem_layerSuffixes hsuffix
  obtain ⟨rest', hrest'⟩ := exists_dot_of_mem_layerSuffixes hsuffix'
  have htext := congrArg String.toList h
  rw [String.toList_append, String.toList_append, toList_layerName, toList_layerName, hrest, hrest',
    append_assoc, append_assoc, append_cancel_left_eq] at htext
  have hparts := append_separator_inj (dot_notMem_toDigits layer) (dot_notMem_toDigits layer') htext
  refine ⟨toDigits_injective hparts.1, String.toList_inj.mp ?_⟩
  rw [hrest, hrest', hparts.2]

lemma ne_of_mem_fixedNames {name : String} (h : name ∈ fixedNames) (layer : ℕ) (suffix : String) :
    name ≠ layerName layer ++ suffix := by
  have hstart : ∀ s ∈ fixedNames, s.toList.take 16 ≠ "gpt_neox.layers.".toList := by decide
  intro heq
  apply hstart name h
  rw [heq, String.toList_append, toList_layerName, append_assoc]
  exact take_left' (by decide)

lemma nodup_shapeEntries (vocab hidden intermediate tripleHidden layers : ℕ) :
    ((shapeEntries vocab hidden intermediate tripleHidden layers).map Prod.fst).Nodup := by
  rw [names_shapeEntries, nodup_append']
  refine ⟨by decide, ?_, ?_⟩
  · rw [nodup_flatMap]
    constructor
    · intro layer _
      have hsuffixes : layerSuffixes.Nodup := by decide
      refine hsuffixes.map_on ?_
      intro suffix hsuffix suffix' hsuffix' heq
      exact (layerName_append_inj hsuffix hsuffix' heq).2
    · refine nodup_range.imp ?_
      intro layer layer' hne name hname hname'
      obtain ⟨suffix, hsuffix, rfl⟩ := List.mem_map.mp hname
      obtain ⟨suffix', hsuffix', heq⟩ := List.mem_map.mp hname'
      exact hne (layerName_append_inj hsuffix hsuffix' heq.symm).1
  · intro name hfixed hlayer
    obtain ⟨layer, _, hname⟩ := mem_flatMap.mp hlayer
    obtain ⟨suffix, _, rfl⟩ := List.mem_map.mp hname
    exact ne_of_mem_fixedNames hfixed layer suffix rfl

/-! ## Offsets -/

section Offsets

variable {usizeMax : ℕ}

lemma checked_eq_ok_iff {max value n : ℕ} :
    checked max value = .ok n ↔ value ≤ max ∧ n = value := by
  unfold checked
  split_ifs with hle
  · exact ⟨fun h => ⟨hle, (Except.ok.inj h).symm⟩, fun h => congrArg Except.ok h.2.symm⟩
  · constructor
    · intro h
      cases h
    · intro h
      exact absurd h.1 hle

lemma product_of_foldlM {shape : List ℕ} {first n : ℕ}
    (h : shape.foldlM (fun product dimension => checked usizeMax (product * dimension)) first =
      .ok n) : n = first * shape.prod := by
  induction shape generalizing first with
  | nil =>
    cases h
    rw [prod_nil, Nat.mul_one]
  | cons dimension shape ih =>
    rw [foldlM_cons] at h
    obtain ⟨product, hproduct, h⟩ := of_bind h
    rw [ih h, (checked_eq_ok_iff.mp hproduct).2, prod_cons, Nat.mul_assoc]

/-- The tensor of a shape whose data begin at `offset`. -/
def tensorAt (offset : ℕ) (shape : List ℕ) : ExpectedTensor :=
  ⟨shape, shape.prod, offset, offset + shape.prod * 2⟩

lemma placeTensor_eq_ok {state state' : ℕ × TreeMap String ExpectedTensor}
    {entry : String × List ℕ} (h : placeTensor usizeMax state entry = .ok state') :
    state' = (state.1 + entry.2.prod * 2, state.2.insert entry.1 (tensorAt state.1 entry.2)) := by
  unfold placeTensor at h
  obtain ⟨elements, helements, h⟩ := of_bind h
  obtain ⟨byteLength, hlength, h⟩ := of_bind h
  obtain ⟨stop, hstop, h⟩ := of_bind h
  obtain ⟨elements64, h64, h⟩ := of_bind h
  obtain rfl := product_of_foldlM helements
  obtain rfl := (checked_eq_ok_iff.mp hlength).2
  obtain rfl := (checked_eq_ok_iff.mp hstop).2
  obtain rfl := (checked_eq_ok_iff.mp h64).2
  cases h
  rw [Nat.one_mul]
  rfl

/-- The tensors of shapes whose data follow one another from `offset` on. -/
def layout : ℕ → List (String × List ℕ) → List (String × ExpectedTensor)
  | _, [] => []
  | offset, entry :: entries =>
    (entry.1, tensorAt offset entry.2) :: layout (offset + entry.2.prod * 2) entries

lemma names_layout (offset : ℕ) (entries : List (String × List ℕ)) :
    (layout offset entries).map Prod.fst = entries.map Prod.fst := by
  induction entries generalizing offset with
  | nil => rfl
  | cons entry entries ih => rw [layout, map_cons, map_cons, ih]

/-- The number of elements of all shapes. -/
def elementSum (entries : List (String × List ℕ)) : ℕ := (entries.map fun entry => entry.2.prod).sum

lemma tiles_layout (offset : ℕ) (entries : List (String × List ℕ)) :
    Tiles (fun entry => entry.2.range) offset (layout offset entries)
      (offset + 2 * elementSum entries) := by
  induction entries generalizing offset with
  | nil => rfl
  | cons entry entries ih =>
    refine ⟨rfl, Nat.le_add_right offset _, ?_⟩
    have hsum : offset + 2 * elementSum (entry :: entries) =
        offset + entry.2.prod * 2 + 2 * elementSum entries := by
      rw [elementSum, map_cons, sum_cons, elementSum]
      omega
    rw [hsum]
    exact ih _

lemma even_of_mem_layout {offset : ℕ} {entries : List (String × List ℕ)}
    {entry : String × ExpectedTensor} (h : entry ∈ layout (2 * offset) entries) :
    2 ∣ entry.2.start ∧ 2 ∣ entry.2.stop := by
  induction entries generalizing offset with
  | nil => cases h
  | cons shaped entries ih =>
    have hstop : 2 * offset + shaped.2.prod * 2 = 2 * (offset + shaped.2.prod) := by omega
    rw [layout, hstop] at h
    rcases mem_cons.mp h with rfl | h
    · exact ⟨⟨offset, rfl⟩, ⟨offset + shaped.2.prod, hstop⟩⟩
    · exact ih h

/-- The loop over the shapes inserts the tensors of the layout. -/
theorem foldlM_placeTensor {entries : List (String × List ℕ)}
    {state state' : ℕ × TreeMap String ExpectedTensor}
    (h : entries.foldlM (placeTensor usizeMax) state = .ok state') :
    state'.2 = insertAll (layout state.1 entries) state.2 := by
  induction entries generalizing state with
  | nil =>
    cases h
    rfl
  | cons entry entries ih =>
    rw [foldlM_cons] at h
    obtain ⟨next, hnext, h⟩ := of_bind h
    obtain rfl := placeTensor_eq_ok hnext
    exact ih h

end Offsets

/-! ## The expected tensors -/

/-- The number of parameters of an architecture. -/
def elementCount (architecture : ArchitectureLock) : ℕ :=
  let v := architecture.vocabSize
  let h := architecture.hiddenSize
  let i := architecture.intermediateSize
  2 * v * h + 2 * h + architecture.numHiddenLayers * (4 * h * h + 2 * h * i + 9 * h + i)

lemma elementSum_append (entries more : List (String × List ℕ)) :
    elementSum (entries ++ more) = elementSum entries + elementSum more := by
  rw [elementSum, map_append, sum_append]
  rfl

lemma elementSum_layerShapes (hidden intermediate layer : ℕ) :
    elementSum (layerShapes hidden intermediate (hidden * 3) layer) =
      4 * hidden * hidden + 2 * hidden * intermediate + 9 * hidden + intermediate := by
  simp only [elementSum, layerShapes, map_cons, map_nil, prod_cons, prod_nil,
    sum_cons, sum_nil]
  ring

lemma elementSum_layers (hidden intermediate layers : ℕ) :
    elementSum ((List.range layers).flatMap (layerShapes hidden intermediate (hidden * 3))) =
      layers * (4 * hidden * hidden + 2 * hidden * intermediate + 9 * hidden + intermediate) := by
  induction layers with
  | zero => rw [Nat.zero_mul]; rfl
  | succ layers ih =>
    rw [range_succ, flatMap_append, elementSum_append, ih, flatMap_singleton,
      elementSum_layerShapes, Nat.add_one_mul layers]

lemma elementSum_shapeEntries (vocab hidden intermediate layers : ℕ) :
    elementSum (shapeEntries vocab hidden intermediate (hidden * 3) layers) =
      elementCount ⟨vocab, hidden, intermediate, layers⟩ := by
  have hfixed : elementSum (fixedShapes vocab hidden) = 2 * vocab * hidden + 2 * hidden := by
    simp only [elementSum, fixedShapes, map_cons, map_nil, prod_cons, prod_nil,
      sum_cons, sum_nil]
    ring
  rw [shapeEntries, elementSum_append, hfixed, elementSum_layers]
  rfl

lemma length_shapeEntries (vocab hidden intermediate tripleHidden layers : ℕ) :
    (shapeEntries vocab hidden intermediate tripleHidden layers).length = 4 + 12 * layers := by
  have hlayer : ∀ layer, (layerShapes hidden intermediate tripleHidden layer).length = 12 :=
    fun _ => rfl
  rw [shapeEntries, length_append, length_flatMap, map_congr_left fun l _ => hlayer l]
  simp [fixedShapes, Nat.mul_comm]

lemma compare_eq_lt_iff {a b : String} : compare a b = .lt ↔ a < b := by
  show compareOfLessAndEq a b = .lt ↔ a < b
  unfold compareOfLessAndEq
  split_ifs with hlt heq <;> simp [hlt]

lemma toList_shapes_perm (vocab hidden intermediate tripleHidden layers : ℕ) :
    (shapes vocab hidden intermediate tripleHidden layers).toList.Perm
      (shapeEntries vocab hidden intermediate tripleHidden layers) := by
  have hperm := toList_insertAll_perm
    (nodup_shapeEntries vocab hidden intermediate tripleHidden layers)
    fun entry _ => @TreeMap.not_mem_emptyc String (List ℕ) compare entry.1
  have hnil : (∅ : TreeMap String (List ℕ)).toList = [] := rfl
  rwa [hnil, append_nil] at hperm

/-- The tensors are those of a layout: of the entries of `shapes`, in the order of the names. -/
theorem expectedTensors_eq_ok {usizeMax : ℕ} {architecture : ArchitectureLock}
    {expected : TreeMap String ExpectedTensor}
    (h : expectedTensors usizeMax architecture = .ok expected) :
    ∃ entries, entries.Perm (shapeEntries architecture.vocabSize architecture.hiddenSize
        architecture.intermediateSize (architecture.hiddenSize * 3) architecture.numHiddenLayers) ∧
      expected.toList = layout 0 entries := by
  unfold expectedTensors usizeValue at h
  obtain ⟨hidden, hhidden, h⟩ := of_bind h
  obtain ⟨intermediate, hintermediate, h⟩ := of_bind h
  obtain ⟨vocab, hvocab, h⟩ := of_bind h
  obtain ⟨layers, hlayers, h⟩ := of_bind h
  obtain ⟨tripleHidden, htriple, h⟩ := of_bind h
  obtain ⟨placed, hplaced, h⟩ := of_bind h
  cases h
  obtain rfl := (checked_eq_ok_iff.mp hhidden).2
  obtain rfl := (checked_eq_ok_iff.mp hintermediate).2
  obtain rfl := (checked_eq_ok_iff.mp hvocab).2
  obtain rfl := (checked_eq_ok_iff.mp hlayers).2
  obtain rfl := (checked_eq_ok_iff.mp htriple).2
  refine ⟨_, toList_shapes_perm _ _ _ _ _, ?_⟩
  rw [foldlM_placeTensor hplaced]
  -- The shapes come in the order of their names, and so do the tensors made of them.
  apply toList_insertAll_of_sorted
  rw [← pairwise_map (f := Prod.fst) (R := fun a b : String => compare a b = .lt),
    names_layout, pairwise_map]
  exact TreeMap.ordered_keys_toList

/-! ## Half-precision lanes -/

/-- The exponent field of a half-precision number: 31 for the infinities and for NaN. -/
def halfExponent (bits : ℕ) : ℕ := bits / 2 ^ 10 % 2 ^ 5

lemma and_exponentMask (bits : ℕ) : bits &&& 0x7c00 = halfExponent bits * 2 ^ 10 :=
  BitFields.and_mask bits 5 10

lemma halfExponent_ne_of_and_ne {bits : ℕ} (h : bits &&& 0x7c00 ≠ 0x7c00) :
    halfExponent bits ≠ 31 := by
  intro heq
  apply h
  rw [and_exponentMask, heq]
  rfl

/-- The `k`th 16-bit number of a sequence of bytes. -/
def lane (bytes : List UInt8) (k : ℕ) : ℕ := fromLeBytes ((bytes.drop (2 * k)).take 2)

lemma mem_chunksExact2 {bytes : List UInt8} {k : ℕ} (h : 2 * k + 1 < bytes.length) :
    (bytes.drop (2 * k)).take 2 ∈ chunksExact2 bytes := by
  induction bytes using chunksExact2.induct generalizing k with
  | case1 low high bytes ih =>
    rw [chunksExact2]
    cases k with
    | zero => exact mem_cons_self
    | succ k =>
      have hk : 2 * k + 1 < bytes.length := by
        simp only [length_cons] at h
        omega
      exact mem_cons_of_mem _ (ih hk)
  | case2 bytes hshort =>
    -- Fewer than two bytes hold no lane.
    cases bytes with
    | nil => cases h
    | cons low rest =>
      cases rest with
      | nil =>
        simp only [length_cons, length_nil] at h
        omega
      | cons high rest => exact absurd rfl (hshort low high rest)

lemma halfExponent_lane_of_finite {bytes : List UInt8} (h : f16PayloadIsFinite bytes = true)
    {k : ℕ} (hk : 2 * k + 1 < bytes.length) : halfExponent (lane bytes k) ≠ 31 := by
  unfold f16PayloadIsFinite at h
  rw [Bool.and_eq_true, List.all_eq_true] at h
  apply halfExponent_ne_of_and_ne
  simpa [lane] using h.2 _ (mem_chunksExact2 hk)

/-- A lane of a part of the bytes is one of the bytes. -/
theorem lane_slice {bytes : List UInt8} {start stop k : ℕ} (h : 2 * start + 2 * k + 2 ≤ stop) :
    lane ((bytes.take stop).drop (2 * start)) k = lane bytes (start + k) := by
  unfold lane
  rw [drop_drop, drop_take, take_take, Nat.mul_add, Nat.min_eq_left (by omega)]

/-! ## Checkpoints that pass -/

section Validated

variable {Dtype Parsed : Type} [DecidableEq Dtype] {usizeMax : ℕ} {sha256Hex : List UInt8 → String}
  {parser : SafeTensors Dtype Parsed} {bytes : List UInt8} {lock : ModelLock}

lemma orInvalid_eq_ok_iff {α : Type} {kind : ArtifactErrorKind} {x : Option α} {a : α} :
    orInvalid kind x = .ok a ↔ x = some a := by
  cases x with
  | none => constructor <;> intro h <;> cases h
  | some b => exact ⟨fun h => congrArg some (Except.ok.inj h),
      fun h => congrArg Except.ok (some.inj h)⟩

lemma requireFile_eq_ok_iff {kind : ArtifactErrorKind} {condition : Bool} {u : Unit} :
    requireFile kind condition = .ok u ↔ condition = true :=
  require_eq_ok_iff

omit [DecidableEq Dtype] in
lemma describes_eq_true {tensors : TreeMap String (TensorInfo Dtype)}
    {agrees : TensorInfo Dtype → ExpectedTensor → Bool} {entry : String × ExpectedTensor}
    (h : describes tensors agrees entry = true) :
    ∃ tensor, tensors[entry.1]? = some tensor ∧ agrees tensor entry.2 = true := by
  unfold describes at h
  split at h
  · rename_i tensor htensor
    exact ⟨tensor, htensor, h⟩
  · cases h

/-- What the file has for an expected tensor. -/
structure Stored (parser : SafeTensors Dtype Parsed)
    (tensors : TreeMap String (TensorInfo Dtype)) (parsed : Parsed)
    (entry : String × ExpectedTensor) (tensor : TensorInfo Dtype) (data : List UInt8) : Prop where
  found : tensors[entry.1]? = some tensor
  dtype : tensor.dtype = parser.f16
  shape : tensor.shape = entry.2.shape
  offsets : tensor.dataOffsets = entry.2.range
  parsed : parser.tensorData parsed entry.1 = some data
  finite : f16PayloadIsFinite data = true

lemma validateCheckpoint_eq_ok
    (h : validateCheckpoint usizeMax sha256Hex parser bytes lock = .ok ()) :
    ∃ tensors expected parsed, parser.readMetadata bytes = some tensors ∧
      expectedTensors usizeMax lock.architecture = .ok expected ∧
      parser.deserialize bytes = some parsed ∧ tensors.keys = expected.keys ∧
      ∀ entry ∈ expected.toList, ∃ tensor data, Stored parser tensors parsed entry tensor data := by
  unfold validateCheckpoint at h
  simp only [bind_eq_ok_iff, requireFile_eq_ok_iff, orInvalid_eq_ok_iff] at h
  obtain ⟨-, -, -, -, -, -, -, -, -, -, -, -, tensors, hmetadata, expected, hexpected, -, hkeys,
    -, hdtypes, -, hshapes, _, hoffsets, parsed, hparsed, hfinite⟩ := h
  rw [Bool.and_eq_true, beq_iff_eq, beq_iff_eq] at hkeys
  rw [List.all_eq_true] at hdtypes hshapes
  refine ⟨tensors, expected, parsed, hmetadata, hexpected, hparsed, hkeys.2, ?_⟩
  intro entry hentry
  obtain ⟨tensor, hfound, hdtype⟩ := describes_eq_true (hdtypes entry hentry)
  obtain ⟨shaped, hshaped, hshape⟩ := describes_eq_true (hshapes entry hentry)
  have hoffset := of_forM hoffsets entry hentry
  simp only [bind_eq_ok_iff, requireFile_eq_ok_iff, orInvalid_eq_ok_iff] at hoffset
  obtain ⟨placed, hplaced, hrange⟩ := hoffset
  have hname : entry.1 ∈ expected.keys := by
    rw [← TreeMap.map_fst_toList_eq_keys]
    exact List.mem_map_of_mem hentry
  have hdata := of_forM hfinite entry.1 hname
  simp only [bind_eq_ok_iff, requireFile_eq_ok_iff, orInvalid_eq_ok_iff] at hdata
  obtain ⟨data, hdata, hfinite⟩ := hdata
  obtain rfl : shaped = tensor := some.inj (hshaped.symm.trans hfound)
  obtain rfl : placed = shaped := some.inj (hplaced.symm.trans hfound)
  exact ⟨placed, data, hfound, beq_iff_eq.mp hdtype, beq_iff_eq.mp hshape, beq_iff_eq.mp hrange,
    hdata, hfinite⟩

omit [DecidableEq Dtype] in
lemma mem_iff_of_keys_eq {tensors : TreeMap String (TensorInfo Dtype)}
    {expected : TreeMap String ExpectedTensor} (h : tensors.keys = expected.keys) (name : String) :
    name ∈ tensors ↔ name ∈ expected := by
  rw [← TreeMap.mem_keys, h, TreeMap.mem_keys]

end Validated

/-- The names of the expected tensors, and that their data fill the payload. -/
theorem expectedTensors_tile {usizeMax : ℕ} {architecture : ArchitectureLock}
    {expected : TreeMap String ExpectedTensor}
    (h : expectedTensors usizeMax architecture = .ok expected) :
    expected.size = 4 + 12 * architecture.numHiddenLayers ∧
    expected.toList.Pairwise (fun a b => a.1 < b.1) ∧
    Tiles (fun entry => entry.2.range) 0 expected.toList (2 * elementCount architecture) := by
  obtain ⟨entries, hperm, hlayout⟩ := expectedTensors_eq_ok h
  refine ⟨?_, ?_, ?_⟩
  · have hlength := congrArg List.length (names_layout 0 entries)
    rw [length_map, length_map, ← hlayout, TreeMap.length_toList] at hlength
    rw [hlength, hperm.length_eq, length_shapeEntries]
  · refine TreeMap.ordered_keys_toList.imp ?_
    intro a b hlt
    exact compare_eq_lt_iff.mp hlt
  · have hsum : elementSum entries = elementCount architecture := by
      rw [← elementSum_shapeEntries]
      exact (hperm.map fun entry => entry.2.prod).sum_eq
    have htiles := tiles_layout 0 entries
    rwa [← hlayout, hsum, Nat.zero_add] at htiles

section Covered

variable {Dtype Parsed : Type} {parser : SafeTensors Dtype Parsed} {bytes : List UInt8}
  {tensors : TreeMap String (TensorInfo Dtype)} {expected : TreeMap String ExpectedTensor}
  {parsed : Parsed}

/-- Every byte is in the data of one tensor of the file. -/
theorem existsUnique_tensor {total p : ℕ}
    (htiles : Tiles (fun entry => entry.2.range) 0 expected.toList total)
    (hkeys : tensors.keys = expected.keys)
    (hstored : ∀ entry ∈ expected.toList, ∃ tensor data,
      Stored parser tensors parsed entry tensor data) (hp : p < total) :
    ∃! name : String, ∃ tensor : TensorInfo Dtype, tensors[name]? = some tensor ∧
      tensor.dataOffsets.1 ≤ p ∧ p < tensor.dataOffsets.2 := by
  obtain ⟨entry, ⟨hentry, hcovers⟩, hunique⟩ := htiles.existsUnique (Nat.zero_le p) hp
  obtain ⟨tensor, data, hstored'⟩ := hstored entry hentry
  refine ⟨entry.1, ⟨tensor, hstored'.found, ?_⟩, ?_⟩
  · rw [hstored'.offsets]
    exact hcovers
  · intro name hname
    obtain ⟨other, hother, hcovers'⟩ := hname
    have hmem : name ∈ expected := by
      rw [← mem_iff_of_keys_eq hkeys, TreeMap.mem_iff_isSome_getElem?, hother]
      rfl
    rw [TreeMap.mem_iff_isSome_getElem?] at hmem
    obtain ⟨wanted, hwanted⟩ := isSome_iff_exists.mp hmem
    have hlisted := TreeMap.mem_toList_iff_getElem?_eq_some.mpr hwanted
    obtain ⟨tensor', data', hstored''⟩ := hstored (name, wanted) hlisted
    obtain rfl : tensor' = other := some.inj (hstored''.found.symm.trans hother)
    rw [hstored''.offsets] at hcovers'
    exact congrArg Prod.fst (hunique (name, wanted) ⟨hlisted, hcovers'⟩)

/-- A number that lies in the data of an expected tensor is finite. -/
theorem halfExponent_lane_payload {k : ℕ} {entry : String × ExpectedTensor}
    {tensor : TensorInfo Dtype} {data : List UInt8} (hparser : parser.Lawful)
    (hmetadata : parser.readMetadata bytes = some tensors)
    (hparsed : parser.deserialize bytes = some parsed)
    (hstored : Stored parser tensors parsed entry tensor data)
    (heven : 2 ∣ entry.2.start ∧ 2 ∣ entry.2.stop)
    (hcovers : Covers (fun entry => entry.2.range) (2 * k) entry) :
    2 * k + 2 ≤ (payload bytes).length ∧ halfExponent (lane (payload bytes) k) ≠ 31 := by
  obtain ⟨hlength, hdata⟩ := hparser.tensorData_eq hmetadata hparsed hstored.found hstored.parsed
  rw [hstored.offsets] at hlength hdata
  obtain ⟨⟨start, hstart⟩, ⟨stop, hstop⟩⟩ := heven
  obtain ⟨hfrom, hto⟩ := hcovers
  simp only [ExpectedTensor.range, hstart, hstop] at hlength hdata hfrom hto
  refine ⟨by omega, ?_⟩
  have hfinite := hstored.finite
  rw [hdata] at hfinite
  have hlane := halfExponent_lane_of_finite hfinite (k := k - start) (by
    rw [length_drop, length_take]
    omega)
  rwa [lane_slice (by omega), Nat.add_sub_cancel' (by omega)] at hlane

end Covered

/-- The expected tensors of an architecture have `4 + 12 * layers` names; in the order of the names
their data fill the payload. In a checkpoint that passes the check every byte belongs to one
half-precision tensor of the expected shape, and no 16-bit number is an infinity or NaN. -/
theorem checkpoint_layout {Dtype Parsed : Type} [DecidableEq Dtype] (usizeMax : ℕ)
    (sha256Hex : List UInt8 → String) (parser : SafeTensors Dtype Parsed)
    (hparser : parser.Lawful) :
    (∀ architecture expected, expectedTensors usizeMax architecture = .ok expected →
      expected.size = 4 + 12 * architecture.numHiddenLayers ∧
      expected.toList.Pairwise (fun a b => a.1 < b.1) ∧
      Tiles (fun entry => entry.2.range) 0 expected.toList (2 * elementCount architecture)) ∧
    ∀ bytes lock, validateCheckpoint usizeMax sha256Hex parser bytes lock = .ok () →
      ∃ expected tensors, expectedTensors usizeMax lock.architecture = .ok expected ∧
        parser.readMetadata bytes = some tensors ∧
        (∀ name, name ∈ tensors ↔ name ∈ expected) ∧
        (∀ (name : String) (wanted : ExpectedTensor), expected[name]? = some wanted →
          ∃ tensor : TensorInfo Dtype, tensors[name]? = some tensor ∧
            tensor.dtype = parser.f16 ∧ tensor.shape = wanted.shape ∧
            tensor.dataOffsets = wanted.range) ∧
        (∀ p < 2 * elementCount lock.architecture, ∃! name : String, ∃ tensor : TensorInfo Dtype,
          tensors[name]? = some tensor ∧ tensor.dataOffsets.1 ≤ p ∧ p < tensor.dataOffsets.2) ∧
        ∀ k < elementCount lock.architecture, 2 * k + 2 ≤ (payload bytes).length ∧
          halfExponent (lane (payload bytes) k) ≠ 31 := by
  refine ⟨fun architecture expected h => expectedTensors_tile h, ?_⟩
  intro bytes lock h
  obtain ⟨tensors, expected, parsed, hmetadata, hexpected, hparsed, hkeys, hstored⟩ :=
    validateCheckpoint_eq_ok h
  have htiles := (expectedTensors_tile hexpected).2.2
  refine ⟨expected, tensors, hexpected, hmetadata, mem_iff_of_keys_eq hkeys, ?_, ?_, ?_⟩
  · intro name wanted hwanted
    obtain ⟨tensor, data, htensor⟩ :=
      hstored (name, wanted) (TreeMap.mem_toList_iff_getElem?_eq_some.mpr hwanted)
    exact ⟨tensor, htensor.found, htensor.dtype, htensor.shape, htensor.offsets⟩
  · intro p hp
    exact existsUnique_tensor htiles hkeys hstored hp
  · intro k hk
    obtain ⟨entry, ⟨hentry, hcovers⟩, _⟩ := htiles.existsUnique (Nat.zero_le (2 * k)) (by omega)
    obtain ⟨tensor, data, htensor⟩ := hstored entry hentry
    obtain ⟨entries, _, hlayout⟩ := expectedTensors_eq_ok hexpected
    rw [hlayout] at hentry
    exact halfExponent_lane_payload hparser hmetadata hparsed htensor
      (@even_of_mem_layout 0 entries entry hentry) hcovers

section Sample

/-- A parser that takes the metadata of any file from a table and cuts the data out of it. -/
def tableParser (table : TreeMap String (TensorInfo Unit)) :
    SafeTensors Unit (List UInt8) where
  f16 := ()
  readMetadata _ := some table
  deserialize bytes := some (payload bytes)
  tensorData data name := do
    let info ← table[name]?
    if info.dataOffsets.2 ≤ data.length then
      some ((data.take info.dataOffsets.2).drop info.dataOffsets.1)
    else none

lemma lawful_tableParser (table : TreeMap String (TensorInfo Unit)) :
    (tableParser table).Lawful := by
  refine ⟨?_⟩
  intro bytes metadata parsed name info data hmetadata hparsed hinfo hdata
  obtain rfl := some.inj hmetadata
  obtain rfl := some.inj hparsed
  simp only [tableParser, hinfo, bind_eq_bind, bind_some] at hdata
  split_ifs at hdata with hle
  exact ⟨hle, (some.inj hdata).symm⟩

/-- One layer, with vectors of length one. -/
def sampleLock : ModelLock := ⟨⟨0, "header"⟩, ⟨2, 1, 1, 1⟩⟩

/-- The metadata of the tensors of the architecture. -/
def sampleTable : TreeMap String (TensorInfo Unit) :=
  match expectedTensors u64Max sampleLock.architecture with
  | .ok expected => expected.map fun _ tensor => ⟨(), tensor.shape, tensor.range⟩
  | .error _ => ∅

/-- An empty header, and the numbers of the tensors, all of value one. -/
def sampleFile : List UInt8 :=
  List.replicate 8 0 ++ (List.replicate 22 [0x00, 0x3c]).flatten

/-- The numbers of a file that passes the check are finite. -/
theorem checkpoint_layout_sample :
    validateCheckpoint u64Max (fun _ => "header") (tableParser sampleTable) sampleFile sampleLock =
      .ok () ∧
    ∀ k < 22, 2 * k + 2 ≤ (payload sampleFile).length ∧
      halfExponent (lane (payload sampleFile) k) ≠ 31 := by
  have hvalid : validateCheckpoint u64Max (fun _ => "header") (tableParser sampleTable) sampleFile
      sampleLock = .ok () := by
    decide +kernel
  obtain ⟨_, _, _, _, _, _, _, hlanes⟩ := (checkpoint_layout u64Max (fun _ => "header")
    (tableParser sampleTable) (lawful_tableParser sampleTable)).2 sampleFile sampleLock hvalid
  exact ⟨hvalid, hlanes⟩

end Sample

end InferLab.ModelArtifacts
