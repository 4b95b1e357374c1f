import Mathlib.Data.List.Basic
import Mathlib.Data.Nat.Notation
import Mathlib.Tactic.Ring

/-!
# Matrices in row-major order

A matrix is kept as one flat list, row after row. `rowAt` reads a row and `rowsAt` several,
and `ofRows` writes rows one after another. `collect` is `ofRows` for rows whose computation
may fail.
-/

namespace InferLab.RowMajor

open List

variable {α β γ ε : Type} {w n m i j : ℕ} {xs : List α} {f g : ℕ → List α}

/-- Row `i` of a matrix with rows of width `w`. -/
def rowAt (w : ℕ) (xs : List α) (i : ℕ) : List α := (xs.drop (i * w)).take w

/-- The rows `i`, …, `i + n - 1`. -/
def rowsAt (w : ℕ) (xs : List α) (i n : ℕ) : List α := (xs.drop (i * w)).take (n * w)

/-- The rows `f 0`, …, `f (n - 1)` one after another. -/
def ofRows (n : ℕ) (f : ℕ → List α) : List α := (List.range n).flatMap f

/-- The rows one after another, up to the first that cannot be computed. -/
def collect (n : ℕ) (f : ℕ → Except ε (List α)) : Except ε (List α) :=
  match n with
  | 0 => .ok []
  | n + 1 => do
    let rows ← collect n f
    let row ← f n
    pure (rows ++ row)

/-! ## Rows written one after another -/

@[simp]
lemma ofRows_zero : ofRows 0 f = [] := rfl

lemma ofRows_succ : ofRows (n + 1) f = ofRows n f ++ f n := by
  simp [ofRows, range_succ]

lemma ofRows_congr (h : ∀ i < n, f i = g i) : ofRows n f = ofRows n g := by
  induction n with
  | zero => rfl
  | succ n ih => rw [ofRows_succ, ofRows_succ, ih fun i hi => h i (by omega), h n (by omega)]

lemma length_rowAt (h : xs.length = n * w) (hi : i < n) : (rowAt w xs i).length = w := by
  have hle : (i + 1) * w ≤ n * w := Nat.mul_le_mul_right w hi
  rw [Nat.add_mul] at hle
  rw [rowAt, length_take, length_drop, h]
  omega

lemma map_ofRows (h : α → β) : (ofRows n f).map h = ofRows n fun i => (f i).map h := by
  simp [ofRows, map_flatMap]

lemma rowAt_map (h : α → β) : rowAt w (xs.map h) i = (rowAt w xs i).map h := by
  simp [rowAt, map_drop, map_take]

/-- The positions of a matrix, row after row. -/
theorem ofRows_range : ofRows n (fun i => (List.range w).map fun j => i * w + j) =
    List.range (n * w) := by
  induction n with
  | zero => rw [ofRows_zero, Nat.zero_mul, range_zero]
  | succ n ih => rw [ofRows_succ, ih, Nat.add_mul, Nat.one_mul, range_add]

/-! ## Rows whose computation may fail -/

/-- All the rows are computed exactly when each of them is. -/
theorem collect_eq_ok_iff {f : ℕ → Except ε (List α)} {out : List α} :
    collect n f = .ok out ↔ ∃ g : ℕ → List α, (∀ i < n, f i = .ok (g i)) ∧ out = ofRows n g := by
  induction n generalizing out with
  | zero => simp [collect, eq_comm]
  | succ n ih =>
    constructor
    · intro h
      rw [collect] at h
      cases hrows : collect n f with
      | error e => simp [hrows, bind, Except.bind] at h
      | ok rows =>
        cases hrow : f n with
        | error e => simp [hrows, hrow, bind, Except.bind] at h
        | ok row =>
          obtain ⟨g, hg, rfl⟩ := ih.mp hrows
          refine ⟨fun i => if i < n then g i else row, ?_, ?_⟩
          · intro i hi
            by_cases hlt : i < n
            · simpa [hlt] using hg i hlt
            · obtain rfl : i = n := by omega
              simpa using hrow
          · have hpre : ofRows n (fun i => if i < n then g i else row) = ofRows n g :=
              ofRows_congr fun i hi => if_pos hi
            simp only [hrows, hrow, bind, Except.bind, pure, Except.pure, Except.ok.injEq] at h
            rw [ofRows_succ, hpre, ← h]
            simp
    · rintro ⟨g, hg, rfl⟩
      have hpre := ih.mpr ⟨g, fun i hi => hg i (by omega), rfl⟩
      simp [collect, hpre, hg n (by omega), bind, Except.bind, pure, Except.pure, ofRows_succ]

lemma collect_ok : collect n (fun i => (.ok (f i) : Except ε (List α))) = .ok (ofRows n f) :=
  collect_eq_ok_iff.mpr ⟨f, fun _ _ => rfl, rfl⟩

lemma collect_congr {f g : ℕ → Except ε (List α)} (h : ∀ i < n, f i = g i) :
    collect n f = collect n g := by
  induction n with
  | zero => rfl
  | succ n ih => rw [collect, collect, ih fun i hi => h i (by omega), h n (by omega)]

lemma collect_succ {f : ℕ → Except ε (List α)} : collect (n + 1) f =
    (collect n f).bind fun rows => (f n).bind fun row => .ok (rows ++ row) := rfl

lemma collect_add {f : ℕ → Except ε (List α)} : collect (n + m) f =
    (collect n f).bind fun rows => (collect m fun i => f (n + i)).bind fun rows' =>
      .ok (rows ++ rows') := by
  induction m with
  | zero =>
    rw [Nat.add_zero]
    cases collect n f with
    | error e => rfl
    | ok rows => simp [collect, Except.bind]
  | succ m ih =>
    rw [← Nat.add_assoc, collect_succ, ih, collect_succ]
    cases collect n f with
    | error e => rfl
    | ok rows =>
      cases collect m fun i => f (n + i) with
      | error e => rfl
      | ok rows' =>
        cases f (n + m) with
        | error e => rfl
        | ok row => simp [Except.bind]

/-- Rows that are computed tile by tile. -/
theorem collect_tiles {f : ℕ → Except ε (List α)} (hw : 0 < w) :
    collect ((n + w - 1) / w) (fun t => collect (min n (t * w + w) - t * w)
      fun i => f (t * w + i)) = collect n f := by
  have htiles : ∀ k ≤ (n + w - 1) / w,
      collect k (fun t => collect (min n (t * w + w) - t * w) fun i => f (t * w + i)) =
        collect (min n (k * w)) f := by
    intro k hk
    induction k with
    | zero => rw [Nat.zero_mul, Nat.min_zero, collect, collect]
    | succ k ih =>
      -- the tile begins before the last row
      have hle : (k + 1) * w ≤ n + w - 1 :=
        (Nat.mul_le_mul_right _ hk).trans (Nat.div_mul_le_self _ _)
      rw [Nat.add_mul, Nat.one_mul] at hle ⊢
      have hbegin : min n (k * w) = k * w := by omega
      rw [collect_succ, ih (by omega), hbegin, ← collect_add]
      congr 1
      omega
  rw [htiles _ (Nat.le_refl _)]
  congr 1
  have hdiv := Nat.div_add_mod (n + w - 1) w
  have hmod := Nat.mod_lt (n + w - 1) hw
  rw [Nat.mul_comm] at hdiv
  omega

/-! ## Some of the rows -/

lemma rowAt_eq_rowsAt : rowAt w xs i = rowsAt w xs i 1 := by
  rw [rowAt, rowsAt, Nat.one_mul]

lemma rowsAt_rowsAt {k : ℕ} (hle : j + k ≤ n) :
    rowsAt w (rowsAt w xs i n) j k = rowsAt w xs (i + j) k := by
  have hmul : (j + k) * w ≤ n * w := Nat.mul_le_mul_right w hle
  rw [Nat.add_mul] at hmul
  rw [rowsAt, rowsAt, rowsAt, drop_take, take_take, drop_drop, Nat.add_mul,
    Nat.min_eq_left (by omega)]

lemma rowAt_rowsAt (hj : j < n) : rowAt w (rowsAt w xs i n) j = rowAt w xs (i + j) := by
  rw [rowAt_eq_rowsAt, rowsAt_rowsAt hj, rowAt_eq_rowsAt]

lemma rowsAt_zero_succ : rowsAt w xs 0 (n + 1) = rowsAt w xs 0 n ++ rowAt w xs n := by
  rw [rowsAt, rowsAt, rowAt, Nat.zero_mul, drop_zero, Nat.add_mul, Nat.one_mul, take_add]

lemma rowsAt_map (h : α → β) : rowsAt w (xs.map h) i n = (rowsAt w xs i n).map h := by
  simp [rowsAt, map_drop, map_take]

lemma rowsAt_zipWith {ys : List β} (h : α → β → γ) :
    rowsAt w (List.zipWith h xs ys) i n =
      List.zipWith h (rowsAt w xs i n) (rowsAt w ys i n) := by
  rw [rowsAt, drop_zipWith, take_zipWith, rowsAt, rowsAt]

lemma mem_of_mem_rowsAt {x : α} (h : x ∈ rowsAt w xs i n) : x ∈ xs :=
  mem_of_mem_drop (mem_of_mem_take h)

lemma ofRows_add : ofRows (n + m) f = ofRows n f ++ ofRows m fun i => f (n + i) := by
  simp [ofRows, range_add, flatMap_map]

lemma length_ofRows (h : ∀ i < n, (f i).length = w) : (ofRows n f).length = n * w := by
  induction n with
  | zero => rw [ofRows_zero, Nat.zero_mul, length_nil]
  | succ n ih =>
    rw [ofRows_succ, length_append, ih fun i hi => h i (by omega), h n (by omega), Nat.add_mul,
      Nat.one_mul]

/-- Some rows of a matrix are the matrix of these rows. -/
theorem rowsAt_ofRows (h : ∀ j < m, (f j).length = w) (hle : i + n ≤ m) :
    rowsAt w (ofRows m f) i n = ofRows n fun j => f (i + j) := by
  have hfront : (ofRows i f).length = i * w := length_ofRows fun j hj => h j (by omega)
  have hrows : (ofRows n fun j => f (i + j)).length = n * w :=
    length_ofRows fun j hj => h (i + j) (by omega)
  obtain ⟨rest, rfl⟩ := Nat.exists_eq_add_of_le hle
  rw [rowsAt, Nat.add_assoc, ofRows_add, drop_left' hfront, ofRows_add, take_left' hrows]

lemma collect_rowsAt {f : ℕ → Except ε (List α)} {out : List α} (h : collect m f = .ok out)
    (hlength : ∀ j < m, ∀ row, f j = .ok row → row.length = w) (hle : i + n ≤ m) :
    collect n (fun j => f (i + j)) = .ok (rowsAt w out i n) := by
  obtain ⟨g, hg, rfl⟩ := collect_eq_ok_iff.mp h
  rw [rowsAt_ofRows (fun j hj => hlength j hj _ (hg j hj)) hle]
  exact collect_eq_ok_iff.mpr ⟨_, fun j hj => hg (i + j) (by omega), rfl⟩

end InferLab.RowMajor
