import InferLab.Nibbles
import InferLab.Worker.Decoder

/-!
# Worker runtime: quantized weights

`LinearWeight::from_fp32` in its three modes. In the four-bit mode the columns of a row are cut
into groups with a scale and a zero point of their own, and the codes of the whole matrix are
packed two in a byte, regardless of where groups and rows end.
-/

namespace InferLab.Worker

open FloatOps Nibbles List

/-- How weights are stored. -/
inductive QuantizationMode
  | fp32
  | int8
  | int4
deriving Repr, DecidableEq

/-- What quantization needs of floats besides their arithmetic. -/
class QuantizationOps (F : Type) where
  neg : F → F
  /-- `std::abs`. -/
  abs : F → F
  /-- `std::lround`, which returns a `long`. -/
  lround : F → ℤ

/-- What the constructor and the access to a weight throw. -/
inductive WeightError
  | dimensionsOverflow
  | shape
  | indexOutside
deriving Repr, DecidableEq

/-- `std::numeric_limits<std::size_t>::max()`. -/
def sizeMax : ℕ := 2 ^ 64 - 1

def checkedProduct (left right : ℕ) : Except WeightError ℕ :=
  if left ≠ 0 ∧ sizeMax / left < right then throw .dimensionsOverflow else pure (left * right)

/-- `static_cast<int>` of a `long`. -/
def toInt (n : ℤ) : ℤ := n.bmod (2 ^ 32)

/-- `std::clamp`. -/
def clamp (n least most : ℤ) : ℤ := if n < least then least else if most < n then most else n

variable {F : Type} [FloatOps F] [QuantizationOps F]

/-! ## Eight bits -/

section Int8

variable (values : List F) (columns : ℕ)

def int8Scale (row : ℕ) : F :=
  let maximum := (List.range columns).foldl (fun maximum column =>
    FloatOps.max maximum (QuantizationOps.abs (values.getD (row * columns + column) 0))) 0
  if equal maximum 0 then ofNat 1 else maximum / ofNat 127

def int8Code (value scale : F) : Int8 :=
  Int8.ofInt (clamp (toInt (QuantizationOps.lround (value / scale))) (-127) 127)

/-- The codes and the scales after a row. -/
def int8Row (state : List Int8 × List F) (row : ℕ) : List Int8 × List F :=
  let scale := int8Scale values columns row
  let codes := (List.range columns).foldl (fun codes column =>
    codes.set (row * columns + column)
      (int8Code (values.getD (row * columns + column) 0) scale)) state.1
  (codes, state.2.set row scale)

def int8Rows (rows : ℕ) : List Int8 × List F :=
  (List.range rows).foldl (int8Row values columns)
    (List.replicate values.length 0, List.replicate rows 0)

end Int8

/-! ## Four bits -/

/-- The columns of a group. -/
def groupColumns (columns group : ℕ) : List ℕ :=
  let first := group * int4GroupSize
  List.range' first (Min.min columns (first + int4GroupSize) - first)

/-- The scale and the zero point of a group. -/
structure GroupMetadata (F : Type) where
  scale : F
  zero : UInt8

section Int4

variable (values : List F) (columns : ℕ)

/-- The least and the largest value of a group, and zero. -/
def groupBounds (row group : ℕ) : F × F :=
  (groupColumns columns group).foldl (fun bounds column =>
    let value := values.getD (row * columns + column) 0
    (FloatOps.min bounds.1 value, FloatOps.max bounds.2 value)) (0, 0)

def groupMetadata (row group : ℕ) : GroupMetadata F :=
  let (minimum, maximum) := groupBounds values columns row group
  let range := maximum - minimum
  let scale := if equal range 0 then ofNat 1 else range / ofNat 15
  let zero := clamp (toInt (QuantizationOps.lround (QuantizationOps.neg minimum / scale))) 0 15
  ⟨scale, UInt8.ofNat zero.toNat⟩

/-- The code of a value of a group. -/
def int4Code (group : GroupMetadata F) (value : F) : UInt8 :=
  UInt8.ofNat (clamp (toInt (QuantizationOps.lround (value / group.scale)) + group.zero.toNat)
    0 15).toNat

/-- Packed codes, with the scale and zero of every group. -/
structure Int4State (F : Type) where
  codes : List UInt8
  scales : List F
  zeroPoints : List UInt8

/-- The groups of a row. -/
def int4Group (row : ℕ) (state : Int4State F) (group : ℕ) : Int4State F :=
  let found := groupMetadata values columns row group
  let metadata := row * groupsPerRow columns + group
  { codes := (groupColumns columns group).foldl (fun codes column =>
      let index := row * columns + column
      Nibbles.write codes index (int4Code found (values.getD index 0))) state.codes
    scales := state.scales.set metadata found.scale
    zeroPoints := state.zeroPoints.set metadata found.zero }

def int4Row (state : Int4State F) (row : ℕ) : Int4State F :=
  (List.range (groupsPerRow columns)).foldl (int4Group values columns row) state

/-- The vectors as they are allocated. -/
def int4Start (rows : ℕ) : Int4State F :=
  ⟨List.replicate ((values.length + 1) / 2) 0, List.replicate (rows * groupsPerRow columns) 0,
    List.replicate (rows * groupsPerRow columns) 0⟩

def int4Rows (rows : ℕ) : Int4State F :=
  (List.range rows).foldl (int4Row values columns) (int4Start values columns rows)

end Int4

/-! ## The order of the loops -/

lemma div_of_mem_groupColumns {columns group column : ℕ}
    (h : column ∈ groupColumns columns group) : column / int4GroupSize = group := by
  simp only [groupColumns, int4GroupSize, mem_range'_1] at h ⊢
  omega

/-- The groups of a row have its columns, from left to right. -/
theorem flatMap_groupColumns (columns : ℕ) :
    (List.range (groupsPerRow columns)).flatMap (groupColumns columns) = List.range columns := by
  have hgroups : ∀ n, (List.range n).flatMap (groupColumns columns) =
      List.range (Min.min columns (n * int4GroupSize)) := by
    intro n
    induction n with
    | zero => simp
    | succ n ih =>
      have hcount : Min.min columns ((n + 1) * 8) = Min.min columns (n * 8) +
          (Min.min columns (n * 8 + 8) - n * 8) := by omega
      rw [range_succ, flatMap_append, flatMap_singleton, ih, groupColumns]
      simp only [int4GroupSize, hcount]
      rw [range_add]
      congr 1
      rcases Nat.lt_or_ge (n * 8) columns with hlt | hge
      · rw [Nat.min_eq_right hlt.le, List.range'_eq_map_range]
      · have hnone : Min.min columns (n * 8 + 8) - n * 8 = 0 := by omega
        rw [hnone]
        rfl
  rw [hgroups]
  congr 1
  simp only [groupsPerRow, int4GroupSize]
  exact Nat.min_eq_left (by omega)

section Writes

variable (values : List F) (columns : ℕ)

/-- The code that is computed for an element. -/
def elementCode (row column : ℕ) : UInt8 :=
  int4Code (groupMetadata values columns row (column / int4GroupSize))
    (values.getD (row * columns + column) 0)

/-- The bytes are written for one element after another, in the order of their indices. -/
def writes (rows : ℕ) : List (ℕ × UInt8) :=
  (List.range (rows * columns)).map fun index =>
    (index, elementCode values columns (index / columns) (index % columns))

lemma codes_int4Row (state : Int4State F) (row : ℕ) :
    (int4Row values columns state row).codes = writeAll state.codes
      ((List.range columns).map fun column =>
        (row * columns + column, elementCode values columns row column)) := by
  have hgroups : ∀ groups : List ℕ, ∀ state : Int4State F,
      (groups.foldl (int4Group values columns row) state).codes = writeAll state.codes
        ((groups.flatMap (groupColumns columns)).map fun column =>
          (row * columns + column, elementCode values columns row column)) := by
    intro groups
    induction groups with
    | nil => exact fun _ => rfl
    | cons group groups ih =>
      intro state
      rw [foldl_cons, ih, flatMap_cons, map_append, writeAll_append]
      congr 1
      simp only [int4Group, writeAll, foldl_map]
      refine foldl_ext _ _ _ fun codes column hcolumn => ?_
      rw [elementCode, div_of_mem_groupColumns hcolumn]
  rw [int4Row, hgroups, flatMap_groupColumns]

lemma codes_int4Rows (rows : ℕ) (hcolumns : 0 < columns) :
    (int4Rows values columns rows).codes =
      writeAll (List.replicate ((values.length + 1) / 2) 0) (writes values columns rows) := by
  have hrows : ∀ rows : List ℕ, ∀ state : Int4State F,
      (rows.foldl (int4Row values columns) state).codes = writeAll state.codes
        (rows.flatMap fun row => (List.range columns).map fun column =>
          (row * columns + column, elementCode values columns row column)) := by
    intro rows
    induction rows with
    | nil => exact fun _ => rfl
    | cons row rows ih =>
      intro state
      rw [foldl_cons, ih, codes_int4Row, flatMap_cons, writeAll_append]
  have hwrites : writes values columns rows = (List.range rows).flatMap fun row =>
      (List.range columns).map fun column =>
        (row * columns + column, elementCode values columns row column) := by
    rw [writes, ← RowMajor.ofRows_range, RowMajor.map_ofRows, RowMajor.ofRows]
    congr 1
    funext row
    rw [map_map]
    refine map_congr_left fun column hcolumn => ?_
    have hlt := mem_range.mp hcolumn
    rw [Function.comp_apply, Nat.mul_comm, Nat.mul_add_div hcolumns, Nat.mul_add_mod,
      Nat.div_eq_of_lt hlt, Nat.mod_eq_of_lt hlt, Nat.add_zero]
  rw [int4Rows, hrows, hwrites]
  rfl

/-- The metadata of the groups is set one group after another as well: `get` is a list of it and
`part` what it has of a group. -/
theorem metadata_int4Rows {α : Type} (get : Int4State F → List α) (part : GroupMetadata F → α)
    (hget : ∀ row state group, get (int4Group values columns row state group) =
      (get state).set (row * groupsPerRow columns + group)
        (part (groupMetadata values columns row group))) (rows : ℕ) :
    get (int4Rows values columns rows) = (List.range (rows * groupsPerRow columns)).foldl
      (fun l i => l.set i (part (groupMetadata values columns (i / groupsPerRow columns)
        (i % groupsPerRow columns))))
      (get (int4Start values columns rows)) := by
  have hrow : ∀ row, ∀ groups : List ℕ, (∀ group ∈ groups, group < groupsPerRow columns) →
      ∀ state, get (groups.foldl (int4Group values columns row) state) =
        (groups.map fun group => row * groupsPerRow columns + group).foldl
          (fun l i => l.set i (part (groupMetadata values columns (i / groupsPerRow columns)
            (i % groupsPerRow columns)))) (get state) := by
    intro row groups
    induction groups with
    | nil => exact fun _ _ => rfl
    | cons group groups ih =>
      intro hgroups state
      obtain ⟨hgroup, hrest⟩ := forall_mem_cons.mp hgroups
      rw [foldl_cons, ih hrest, hget, map_cons, foldl_cons,
        Nat.mul_comm row, Nat.mul_add_div (by omega), Nat.mul_add_mod, Nat.div_eq_of_lt hgroup,
        Nat.mod_eq_of_lt hgroup, Nat.add_zero]
  have hrows : ∀ rows : List ℕ, ∀ state, get (rows.foldl (int4Row values columns) state) =
      (rows.flatMap fun row => (List.range (groupsPerRow columns)).map
        fun group => row * groupsPerRow columns + group).foldl
          (fun l i => l.set i (part (groupMetadata values columns (i / groupsPerRow columns)
            (i % groupsPerRow columns)))) (get state) := by
    intro rows
    induction rows with
    | nil => exact fun _ => rfl
    | cons row rows ih =>
      intro state
      rw [foldl_cons, ih, int4Row, hrow row _ (fun _ h => mem_range.mp h),
        flatMap_cons, foldl_append]
  rw [int4Rows, hrows, ← RowMajor.ofRows_range]
  rfl

end Writes

section Set

variable {α : Type} (f : ℕ → α) (l : List α)

lemma length_foldl_set (n : ℕ) :
    ((List.range n).foldl (fun l i => l.set i (f i)) l).length = l.length := by
  induction n with
  | zero => rfl
  | succ n ih =>
    rw [range_succ, foldl_append, foldl_cons, foldl_nil, length_set, ih]

/-- What is set from the front is there. -/
theorem getD_foldl_set (d : α) {n i : ℕ} (hn : n ≤ l.length) (hi : i < n) :
    ((List.range n).foldl (fun l i => l.set i (f i)) l).getD i d = f i := by
  induction n with
  | zero => exact absurd hi (Nat.not_lt_zero i)
  | succ n ih =>
    rw [range_succ, foldl_append, foldl_cons, foldl_nil,
      getD_eq_getElem?_getD, List.getElem?_set, length_foldl_set]
    rcases Nat.lt_succ_iff_lt_or_eq.mp hi with hlt | rfl
    · rw [if_neg (by omega), ← getD_eq_getElem?_getD, ih (by omega) hlt]
    · rw [if_pos rfl, if_pos (by omega)]
      rfl

end Set

/-! ## The vectors that are stored -/

section Stored

variable (values : List F) (columns rows : ℕ)

lemma length_int8Rows : (int8Rows values columns rows).1.length = values.length ∧
    (int8Rows values columns rows).2.length = rows := by
  have hcodes : ∀ (indices : List ℕ) (position : ℕ → ℕ) (code : ℕ → Int8) (codes : List Int8),
      (indices.foldl (fun codes column => codes.set (position column) (code column)) codes).length =
        codes.length := by
    intro indices position code
    induction indices with
    | nil => exact fun _ => rfl
    | cons column indices ih =>
      intro codes
      rw [foldl_cons, ih, length_set]
  have hrows : ∀ (rows : List ℕ) (state : List Int8 × List F),
      (rows.foldl (int8Row values columns) state).1.length = state.1.length ∧
        (rows.foldl (int8Row values columns) state).2.length = state.2.length := by
    intro rows
    induction rows with
    | nil => exact fun _ => ⟨rfl, rfl⟩
    | cons row rows ih =>
      intro state
      rw [foldl_cons, (ih _).1, (ih _).2]
      exact ⟨hcodes _ (fun column => row * columns + column) _ state.1, length_set⟩
  obtain ⟨hfirst, hsecond⟩ := hrows (List.range rows)
    (List.replicate values.length 0, List.replicate rows 0)
  rw [int8Rows, hfirst, hsecond, length_replicate, length_replicate]
  exact ⟨rfl, rfl⟩

lemma scales_int4Rows : (int4Rows values columns rows).scales =
    (List.range (rows * groupsPerRow columns)).foldl
      (fun l i => l.set i (groupMetadata values columns (i / groupsPerRow columns)
        (i % groupsPerRow columns)).scale) (List.replicate (rows * groupsPerRow columns) 0) :=
  metadata_int4Rows values columns Int4State.scales GroupMetadata.scale (fun _ _ _ => rfl) rows

lemma zeroPoints_int4Rows : (int4Rows values columns rows).zeroPoints =
    (List.range (rows * groupsPerRow columns)).foldl
      (fun l i => l.set i (groupMetadata values columns (i / groupsPerRow columns)
        (i % groupsPerRow columns)).zero) (List.replicate (rows * groupsPerRow columns) 0) :=
  metadata_int4Rows values columns Int4State.zeroPoints GroupMetadata.zero (fun _ _ _ => rfl) rows

lemma sized_int4Rows (hlength : values.length = rows * columns) (hcolumns : 0 < columns) :
    (WeightStorage.int4 (int4Rows values columns rows).codes (int4Rows values columns rows).scales
      (int4Rows values columns rows).zeroPoints).Sized rows columns := by
  refine ⟨?_, ?_, ?_⟩
  · rw [codes_int4Rows values columns rows hcolumns, length_writeAll, length_replicate,
      hlength]
  · rw [scales_int4Rows, length_foldl_set, length_replicate]
  · rw [zeroPoints_int4Rows, length_foldl_set, length_replicate]

end Stored

/-! ## Weights -/

def LinearWeight.fromFp32 (values : List F) (rows columns : ℕ) (mode : QuantizationMode) :
    Except WeightError (LinearWeight F) := do
  let _ ← checkedProduct rows columns
  if h : values.length = rows * columns ∧ 0 < rows ∧ 0 < columns then
    match mode with
    | .fp32 => pure ⟨rows, columns, .fp32 values, h.1⟩
    | .int8 =>
      let stored := int8Rows values columns rows
      pure ⟨rows, columns, .int8 stored.1 stored.2, by
        rw [WeightStorage.Sized, ← h.1]
        exact length_int8Rows values columns rows⟩
    | .int4 =>
      let _ ← checkedProduct rows (groupsPerRow columns)
      let stored := int4Rows values columns rows
      pure ⟨rows, columns, .int4 stored.codes stored.scales stored.zeroPoints,
        sized_int4Rows values columns rows h.1 h.2.2⟩
  else throw .shape

def LinearWeight.at (weight : LinearWeight F) (row column : ℕ) : Except WeightError F :=
  if weight.rows ≤ row ∨ weight.columns ≤ column then throw .indexOutside
  else pure (weight.valueAt row column)

omit [QuantizationOps F] in
lemma LinearWeight.valueAt_int4 {weight : LinearWeight F} {codes zeroPoints : List UInt8}
    {scales : List F} (h : weight.storage = .int4 codes scales zeroPoints) (row column : ℕ) :
    let metadata := row * groupsPerRow weight.columns + column / int4GroupSize
    weight.valueAt row column = (ofNat (nibble codes (row * weight.columns + column)).toNat -
      ofNat (zeroPoints.getD metadata 0).toNat) * scales.getD metadata 0 := by
  rw [LinearWeight.valueAt, h]
  rfl

lemma checkedProduct_eq_ok {left right : ℕ} (h : left * right ≤ sizeMax) :
    checkedProduct left right = .ok (left * right) := by
  unfold checkedProduct
  rw [if_neg]
  · rfl
  · rintro ⟨hleft, hlt⟩
    rw [Nat.div_lt_iff_lt_mul (by omega), Nat.mul_comm] at hlt
    omega

lemma groupsPerRow_le {columns : ℕ} (h : 0 < columns) : groupsPerRow columns ≤ columns := by
  simp only [groupsPerRow, int4GroupSize]
  omega

lemma int4Code_lt (group : GroupMetadata F) (value : F) : int4Code group value < 16 := by
  have hclamp : ∀ n : ℤ, (clamp n 0 15).toNat < 16 := by
    intro n
    unfold clamp
    split_ifs <;> omega
  have hcode := hclamp (toInt (QuantizationOps.lround (value / group.scale)) + group.zero.toNat)
  have hbyte := UInt8.toNat_ofNat_of_lt' (hcode.trans (by decide))
  rw [int4Code, UInt8.lt_iff_toNat_lt, hbyte]
  exact hcode

section Elements

variable {values : List F} {rows columns : ℕ}

lemma filled_codes (hlength : values.length = rows * columns) (hcolumns : 0 < columns) :
    Filled (int4Rows values columns rows).codes (rows * columns) fun index =>
      elementCode values columns (index / columns) (index % columns) := by
  rw [codes_int4Rows values columns rows hcolumns, hlength]
  exact filled_writeAll (Nat.le_refl _) fun index _ => int4Code_lt _ _

variable {row column : ℕ}

lemma index_lt (hrow : row < rows) (hcolumn : column < columns) :
    row * columns + column < rows * columns := by
  have hle : (row + 1) * columns ≤ rows * columns := Nat.mul_le_mul_right columns hrow
  rw [Nat.add_mul] at hle
  omega

lemma nibble_codes (hlength : values.length = rows * columns) (hrow : row < rows)
    (hcolumn : column < columns) :
    nibble (int4Rows values columns rows).codes (row * columns + column) =
      elementCode values columns row column := by
  have hpos : 0 < columns := by omega
  rw [(filled_codes hlength hpos).written _ (index_lt hrow hcolumn), Nat.mul_comm row,
    Nat.mul_add_div hpos, Nat.mul_add_mod, Nat.div_eq_of_lt hcolumn, Nat.mod_eq_of_lt hcolumn,
    Nat.add_zero]

/-- The place of a group's metadata, which is that of no other group. -/
theorem metadata_place (hrow : row < rows) (hcolumn : column < columns) :
    row * groupsPerRow columns + column / int4GroupSize < rows * groupsPerRow columns ∧
      (row * groupsPerRow columns + column / int4GroupSize) / groupsPerRow columns = row ∧
      (row * groupsPerRow columns + column / int4GroupSize) % groupsPerRow columns =
        column / int4GroupSize := by
  have hgroup : column / int4GroupSize < groupsPerRow columns := by
    simp only [groupsPerRow, int4GroupSize]
    omega
  refine ⟨index_lt hrow hgroup, ?_, ?_⟩
  · rw [Nat.mul_comm row, Nat.mul_add_div (Nat.zero_lt_of_lt hgroup), Nat.div_eq_of_lt hgroup,
      Nat.add_zero]
  · rw [Nat.mul_comm row, Nat.mul_add_mod, Nat.mod_eq_of_lt hgroup]

variable (values) in
lemma getD_scales (hrow : row < rows) (hcolumn : column < columns) :
    (int4Rows values columns rows).scales.getD
        (row * groupsPerRow columns + column / int4GroupSize) 0 =
      (groupMetadata values columns row (column / int4GroupSize)).scale := by
  obtain ⟨hlt, hdiv, hmod⟩ := metadata_place hrow hcolumn
  rw [scales_int4Rows, getD_foldl_set _ _ _ (by rw [length_replicate]) hlt, hdiv, hmod]

variable (values) in
lemma getD_zeroPoints (hrow : row < rows) (hcolumn : column < columns) :
    (int4Rows values columns rows).zeroPoints.getD
        (row * groupsPerRow columns + column / int4GroupSize) 0 =
      (groupMetadata values columns row (column / int4GroupSize)).zero := by
  obtain ⟨hlt, hdiv, hmod⟩ := metadata_place hrow hcolumn
  rw [zeroPoints_int4Rows, getD_foldl_set _ _ _ (by rw [length_replicate]) hlt, hdiv, hmod]

/-- The writes before one are those of the smaller indices. -/
theorem of_writes_eq_append {before after : List (ℕ × UInt8)} {write : ℕ × UInt8}
    (h : writes values columns rows = before ++ write :: after) :
    write.1 < rows * columns ∧
      write.2 = elementCode values columns (write.1 / columns) (write.1 % columns) ∧
      before = (List.range write.1).map fun index =>
        (index, elementCode values columns (index / columns) (index % columns)) := by
  have hlength := congrArg List.length h
  rw [writes, length_map, length_range, length_append, length_cons] at hlength
  have hlt : before.length < rows * columns := by omega
  have hwrite := congrArg (fun l => l[before.length]?) h
  simp only [writes, List.getElem?_map, List.getElem?_range hlt, Option.map_some,
    List.getElem?_append_right (Nat.le_refl _), Nat.sub_self, List.getElem?_cons_zero,
    Option.some.injEq] at hwrite
  have htake := congrArg (List.take before.length) h
  rw [writes, ← map_take, take_range, Nat.min_eq_left hlt.le, take_left] at htake
  obtain rfl := hwrite
  exact ⟨hlt, rfl, htake.symm⟩

end Elements

/-- A matrix that is quantized to four bits. Every element is read with the code, the scale and
the zero point that were computed for it. The codes are written one after another, and no write
changes the code of another element. -/
theorem int4_packing {values : List F} {rows columns : ℕ}
    (hlength : values.length = rows * columns) (hrows : 0 < rows) (hcolumns : 0 < columns)
    (hsize : rows * columns ≤ sizeMax) :
    ∃ weight codes scales zeroPoints,
      LinearWeight.fromFp32 values rows columns .int4 = .ok weight ∧
      weight.storage = .int4 codes scales zeroPoints ∧
      (∀ row < rows, ∀ column < columns,
        let index := row * columns + column
        let metadata := row * groupsPerRow columns + column / int4GroupSize
        let group := groupMetadata values columns row (column / int4GroupSize)
        let code := int4Code group (values.getD index 0)
        code < 16 ∧ nibble codes index = code ∧ scales.getD metadata 0 = group.scale ∧
          zeroPoints.getD metadata 0 = group.zero ∧
          weight.at row column =
            .ok ((ofNat code.toNat - ofNat group.zero.toNat) * group.scale)) ∧
      codes = writeAll (List.replicate ((rows * columns + 1) / 2) 0) (writes values columns rows) ∧
      ∀ before write after, writes values columns rows = before ++ write :: after →
        ∀ index ≠ write.1,
          let bytes := writeAll (List.replicate ((rows * columns + 1) / 2) 0) before
          nibble (Nibbles.write bytes write.1 write.2) index = nibble bytes index := by
  have hgroups : rows * groupsPerRow columns ≤ sizeMax :=
    (Nat.mul_le_mul_left rows (groupsPerRow_le hcolumns)).trans hsize
  have hweight : LinearWeight.fromFp32 values rows columns .int4 =
      .ok ⟨rows, columns, .int4 (int4Rows values columns rows).codes
        (int4Rows values columns rows).scales (int4Rows values columns rows).zeroPoints,
        sized_int4Rows values columns rows hlength hcolumns⟩ := by
    rw [LinearWeight.fromFp32, checkedProduct_eq_ok hsize, checkedProduct_eq_ok hgroups]
    exact dif_pos ⟨hlength, hrows, hcolumns⟩
  refine ⟨_, _, _, _, hweight, rfl, ?_, ?_, ?_⟩
  · intro row hrow column hcolumn
    have hcode := nibble_codes hlength hrow hcolumn
    have hscale := getD_scales values hrow hcolumn
    have hzero := getD_zeroPoints values hrow hcolumn
    refine ⟨int4Code_lt _ _, hcode, hscale, hzero, ?_⟩
    rw [LinearWeight.at, if_neg (by simp; omega), LinearWeight.valueAt_int4 rfl, hcode, hscale,
      hzero]
    rfl
  · rw [codes_int4Rows values columns rows hcolumns, hlength]
  · intro before write after hwrites index hne
    obtain ⟨hlt, hcode, rfl⟩ := of_writes_eq_append hwrites
    have hfilled : Filled (writeAll (List.replicate ((rows * columns + 1) / 2) 0)
        ((List.range write.1).map fun index =>
          (index, elementCode values columns (index / columns) (index % columns)))) write.1
        fun index => elementCode values columns (index / columns) (index % columns) :=
      filled_writeAll (by omega) fun index _ => int4Code_lt _ _
    rw [hcode]
    exact hfilled.nibble_write (int4Code_lt _ _) hne

section Sample

/-- Stands for `float` where the quantization is evaluated. -/
structure SampleReal where
  value : ℚ
deriving DecidableEq

instance : FloatOps SampleReal where
  zero := ⟨0⟩
  add a b := ⟨a.value + b.value⟩
  sub a b := ⟨a.value - b.value⟩
  mul a b := ⟨a.value * b.value⟩
  div a b := ⟨a.value / b.value⟩
  ofRat q := ⟨q⟩
  sqrt a := a
  exp a := a
  tanh a := a
  negInf := ⟨0⟩
  less a b := decide (a.value < b.value)
  equal a b := decide (a.value = b.value)
  isFinite _ := true
  isInf _ := false

instance : QuantizationOps SampleReal where
  neg a := ⟨-a.value⟩
  abs a := if a.value < 0 then ⟨-a.value⟩ else a
  lround a := if 0 ≤ a.value then (a.value + 1 / 2).floor else (a.value - 1 / 2).ceil

def sampleMatrix : List SampleReal := [0, 1, 2, 3, 4, 5, 6, 7, 15].map fun n : ℕ => ofNat n

/-- With three columns, the first element of the second row is in a byte of the first row. -/
theorem int4_packing_three : ∃ weight,
    LinearWeight.fromFp32 sampleMatrix 3 3 .int4 = .ok weight ∧ weight.at 1 0 = .ok (ofNat 3) := by
  obtain ⟨weight, codes, scales, zeroPoints, hweight, -, helements, -⟩ :=
    @int4_packing SampleReal _ _ sampleMatrix 3 3 rfl (by decide) (by decide) (by decide)
  have hvalue := (helements 1 (by decide) 0 (by decide)).2.2.2.2
  refine ⟨weight, hweight, hvalue.trans ?_⟩
  decide +kernel

end Sample

end InferLab.Worker
