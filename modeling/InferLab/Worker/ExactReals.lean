import InferLab.Worker.Basic
import Mathlib.Analysis.Real.Sqrt
import Mathlib.Analysis.SpecialFunctions.Exp
import Mathlib.Analysis.SpecialFunctions.Log.Basic
import Mathlib.Analysis.Complex.Trigonometric

/-!
# Worker runtime: exact arithmetic

The real numbers in the place of floats. Besides them there is `-∞`, which the runtime uses
as the maximum of nothing; it compares with every number, and its exponential is zero. What
else is computed from it is never looked at.
-/

namespace InferLab.Worker

open List

/-- The reals, and the value of a masked score. -/
inductive ExactReal
  | real (x : ℝ)
  | negInf

namespace ExactReal

/-- An operation on numbers. -/
def map₂ (f : ℝ → ℝ → ℝ) : ExactReal → ExactReal → ExactReal
  | real x, real y => real (f x y)
  | _, _ => negInf

open Classical in
noncomputable instance : FloatOps ExactReal where
  zero := real 0
  add := map₂ (· + ·)
  sub := map₂ (· - ·)
  mul := map₂ (· * ·)
  div := map₂ (· / ·)
  ofRat q := real q
  sqrt
    | real x => real (Real.sqrt x)
    | negInf => negInf
  exp
    | real x => real (Real.exp x)
    | negInf => real 0
  tanh
    | real x => real (Real.tanh x)
    | negInf => real (-1)
  negInf := negInf
  less
    | real x, real y => decide (x < y)
    | negInf, real _ => true
    | _, negInf => false
  equal
    | real x, real y => decide (x = y)
    | negInf, negInf => true
    | _, _ => false
  isFinite
    | real _ => true
    | negInf => false
  isInf
    | real _ => false
    | negInf => true

open FloatOps

variable {α : Type} {x y z : ℝ} {f : α → ℝ} {l : List α}

lemma zero_eq : (0 : ExactReal) = real 0 := rfl

@[simp]
lemma real_add : real x + real y = real (x + y) := rfl

@[simp]
lemma real_mul : real x * real y = real (x * y) := rfl

@[simp]
lemma real_div : real x / real y = real (x / y) := rfl

/-- A normalizer is invalid if it is not positive. -/
theorem lessEqual_zero_eq_false (hx : 0 < x) : lessEqual (real x) 0 = false := by
  have hless : less (real x) (real 0) = false := decide_eq_false (not_lt.mpr hx.le)
  have hequal : equal (real x) (real 0) = false := decide_eq_false hx.ne'
  rw [zero_eq, lessEqual, hless, hequal]
  rfl

lemma exists_max_eq (a : ExactReal) : ∃ z, FloatOps.max a (real y) = real z := by
  cases a with
  | negInf => exact ⟨y, rfl⟩
  | real x =>
    unfold FloatOps.max
    split
    · exact ⟨y, rfl⟩
    · exact ⟨x, rfl⟩

/-- The maximum of some numbers is a number. -/
theorem exists_foldl_max_eq (hl : l ≠ []) (a : ExactReal) :
    ∃ z, (l.map fun b => real (f b)).foldl FloatOps.max a = real z := by
  induction l generalizing a with
  | nil => exact absurd rfl hl
  | cons b l ih =>
    rw [map_cons, foldl_cons]
    by_cases hrest : l = []
    · rw [hrest]
      exact exists_max_eq a
    · exact ih hrest _

lemma foldl_add_eq :
    l.foldl (fun sum a => sum + real (f a)) (real z) = real (z + (l.map f).sum) := by
  induction l generalizing z with
  | nil => simp
  | cons a l ih =>
    rw [foldl_cons, real_add, ih, map_cons, sum_cons, add_assoc]

lemma getD_map_real (xs : List ℝ) (i : ℕ) : (xs.map real).getD i 0 = real (xs.getD i 0) := by
  rw [getD_eq_getElem?_getD, getD_eq_getElem?_getD, List.getElem?_map]
  cases xs[i]? with
  | none => rfl
  | some x => rfl

end ExactReal

end InferLab.Worker
