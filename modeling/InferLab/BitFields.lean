import Mathlib.Data.Nat.Bitwise
import Mathlib.Data.Nat.Notation

/-!
# Fields of a word

A mask selects a field of a natural number.
-/

namespace InferLab.BitFields

/-- A mask of `width` ones after `low` zeros keeps the field there. -/
theorem and_mask (x width low : ℕ) :
    x &&& (2 ^ width - 1) * 2 ^ low = x / 2 ^ low % 2 ^ width * 2 ^ low := by
  apply Nat.eq_of_testBit_eq
  intro i
  rw [Nat.testBit_and, Nat.testBit_mul_two_pow, Nat.testBit_mul_two_pow,
    Nat.testBit_mod_two_pow, Nat.testBit_div_two_pow, Nat.testBit_two_pow_sub_one]
  by_cases hi : low ≤ i
  · rw [Nat.sub_add_cancel hi]
    simp [hi, Bool.and_comm]
  · simp [hi]

end InferLab.BitFields
