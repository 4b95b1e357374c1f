import Mathlib.Analysis.SpecialFunctions.Exp

/-!
# Softmax averages that are computed piece by piece

The average of values with weights `exp (score - m)` does not depend on `m`. It can therefore
be computed over pieces of the sources, with an `m` that changes from piece to piece: the sums
so far are rescaled when it does.
-/

namespace InferLab.OnlineSoftmax

open List

variable {α : Type} {score value : α → ℝ} {m m' : ℝ} {l l' : List α}

/-- The sum of values with weights `exp (score - m)`. -/
noncomputable def weighted (score value : α → ℝ) (m : ℝ) (l : List α) : ℝ :=
  (l.map fun a => Real.exp (score a - m) * value a).sum

/-- The sum of the weights. -/
noncomputable def total (score : α → ℝ) (m : ℝ) (l : List α) : ℝ :=
  (l.map fun a => Real.exp (score a - m)).sum

/-- The average. -/
noncomputable def average (score value : α → ℝ) (l : List α) : ℝ :=
  weighted score value 0 l / total score 0 l

@[simp]
lemma weighted_nil : weighted score value m [] = 0 := rfl

@[simp]
lemma total_nil : total score m [] = 0 := rfl

lemma weighted_append : weighted score value m (l ++ l') =
    weighted score value m l + weighted score value m l' := by
  unfold weighted
  rw [map_append, sum_append]

lemma total_append : total score m (l ++ l') = total score m l + total score m l' := by
  unfold total
  rw [map_append, sum_append]

lemma exp_sub_mul_exp_sub (s : ℝ) : Real.exp (s - m) * Real.exp (m - m') = Real.exp (s - m') := by
  rw [← Real.exp_add]
  congr 1
  ring

/-- The sums for another `m`. -/
theorem weighted_mul_exp :
    weighted score value m l * Real.exp (m - m') = weighted score value m' l := by
  induction l with
  | nil => simp
  | cons a l ih =>
    unfold weighted at ih ⊢
    simp only [map_cons, sum_cons]
    rw [add_mul, ih, mul_right_comm, exp_sub_mul_exp_sub]

lemma total_mul_exp : total score m l * Real.exp (m - m') = total score m' l := by
  induction l with
  | nil => simp
  | cons a l ih =>
    unfold total at ih ⊢
    simp only [map_cons, sum_cons]
    rw [add_mul, ih, exp_sub_mul_exp_sub]

lemma total_pos (hl : l ≠ []) : 0 < total score m l := by
  induction l with
  | nil => exact absurd rfl hl
  | cons a l ih =>
    have hfirst : 0 < Real.exp (score a - m) := Real.exp_pos _
    show 0 < Real.exp (score a - m) + total score m l
    by_cases hrest : l = []
    · rw [hrest, total_nil, add_zero]
      exact hfirst
    · exact add_pos hfirst (ih hrest)

/-- The average is that of the sums for any `m`. -/
theorem weighted_div_total :
    weighted score value m l / total score m l = average score value l := by
  have hweighted : weighted score value m l * Real.exp (m - 0) = weighted score value 0 l :=
    weighted_mul_exp
  have htotal : total score m l * Real.exp (m - 0) = total score 0 l := total_mul_exp
  rw [average, ← hweighted, ← htotal]
  exact (mul_div_mul_right _ _ (Real.exp_ne_zero _)).symm

/-- The average, with each weight divided by their sum. -/
theorem sum_div_total :
    (l.map fun a => Real.exp (score a - m) / total score m l * value a).sum =
      average score value l := by
  rw [← weighted_div_total (m := m), div_eq_mul_inv, weighted, ← sum_map_mul_right]
  congr 1
  apply map_congr_left
  intro a _
  ring

end InferLab.OnlineSoftmax
