import Mathlib.Algebra.BigOperators.Group.Finset.Basic
import Mathlib.Algebra.Order.BigOperators.Group.Finset
import Mathlib.Algebra.BigOperators.Ring.Finset
import Mathlib.Data.Fintype.BigOperators
import Mathlib.Tactic.Linarith
import Mathlib.Tactic.Ring

/-!
# Smooth weighted rounds

In every round each participant earns its weight, and the one that is chosen pays the sum of all
weights. `balance` is what a participant then has; a round without a choice costs nothing. If the
choice is always one of the richest, no one is ever in debt by a whole round's earnings
(`Greedy.neg_total_lt`), and so everyone is chosen about as often as its weight says. Rounds with
another choice, or with none, move these bounds by their number.
-/

namespace InferLab.SmoothWeights

open Finset List Finset

variable {ι : Type} [Fintype ι] [DecidableEq ι] {weight : ι → ℕ} {rounds : List (Option ι)}

def total (weight : ι → ℕ) : ℤ := ∑ i, (weight i : ℤ)

/-- What `i` has after the rounds with these choices. -/
def balance (weight : ι → ℕ) (rounds : List (Option ι)) (i : ι) : ℤ :=
  rounds.length * weight i - rounds.count (some i) * total weight

@[simp] lemma balance_nil (i : ι) : balance weight [] i = 0 := by
  simp [balance]

/-- One more round. -/
theorem balance_append_singleton (choice : Option ι) (i : ι) :
    balance weight (rounds ++ [choice]) i =
      balance weight rounds i + weight i - if choice = some i then total weight else 0 := by
  unfold balance
  rw [count_append, count_singleton, length_append, length_singleton]
  by_cases hchoice : choice = some i
  · simp only [hchoice, beq_self_eq_true, if_true]
    push_cast
    ring
  · simp only [hchoice, beq_iff_eq, if_false]
    push_cast
    ring

omit [DecidableEq ι] in
lemma total_nonneg (weight : ι → ℕ) : 0 ≤ total weight := sum_nonneg fun _ _ => Int.natCast_nonneg _

omit [DecidableEq ι] in
lemma weight_le_total (weight : ι → ℕ) (i : ι) : (weight i : ℤ) ≤ total weight :=
  single_le_sum (f := fun i => (weight i : ℤ)) (fun _ _ => Int.natCast_nonneg _)
    (mem_univ i)

/-- Every round of which no one pays leaves its earnings. -/
theorem sum_balance : ∑ i, balance weight rounds i = rounds.count none * total weight := by
  induction rounds using List.reverseRecOn with
  | nil => simp
  | append_singleton rounds choice ih =>
    simp only [balance_append_singleton, sum_sub_distrib, sum_add_distrib, ih]
    rw [← total, count_append]
    cases choice with
    | none =>
      simp
      ring
    | some i => simp

/-- In every round one of the richest is chosen. The exceptions are counted: in such a round the
choice is free, or there is none. -/
inductive Greedy (weight : ι → ℕ) : ℕ → List (Option ι) → Prop
  | nil : Greedy weight 0 []
  | choose {exceptions : ℕ} {rounds : List (Option ι)} {i : ι} (h : Greedy weight exceptions rounds)
      (hrichest : ∀ j, balance weight rounds j + weight j ≤ balance weight rounds i + weight i) :
      Greedy weight exceptions (rounds ++ [some i])
  | free {exceptions : ℕ} {rounds : List (Option ι)} (h : Greedy weight exceptions rounds)
      (choice : Option ι) : Greedy weight (exceptions + 1) (rounds ++ [choice])

namespace Greedy

variable {exceptions : ℕ}

lemma count_none_le (h : Greedy weight exceptions rounds) : rounds.count none ≤ exceptions := by
  induction h with
  | nil => exact Nat.le_refl _
  | choose _ _ ih =>
    rw [count_append]
    exact ih
  | free _ choice ih =>
    rw [count_append]
    exact Nat.add_le_add ih count_le_length

lemma sum_eq_zero (h : Greedy weight 0 rounds) : ∑ i, balance weight rounds i = 0 := by
  rw [sum_balance, Nat.le_zero.mp h.count_none_le]
  simp

/-- The richest has something when the earnings of a round are distributed, so that after paying
it is not in debt by all of them. An exception may cost as much again. -/
theorem neg_total_lt (h : Greedy weight exceptions rounds) (hpos : ∀ i, 0 < weight i) (i : ι) :
    -((exceptions + 1) * total weight) < balance weight rounds i := by
  have htotal : 0 < total weight :=
    lt_of_lt_of_le (by exact_mod_cast hpos i) (weight_le_total weight i)
  induction h generalizing i with
  | nil => simpa using htotal
  | @choose exceptions rounds winner h hrichest ih =>
    have hweight : (0 : ℤ) < weight i := by exact_mod_cast hpos i
    have hexceptions : 0 ≤ (exceptions : ℤ) * total weight := by positivity
    rw [balance_append_singleton]
    by_cases hi : some winner = some i
    · obtain rfl := Option.some.inj hi
      rw [if_pos rfl]
      by_contra hdebt
      have hnone : ∀ j, balance weight rounds j + weight j ≤ 0 := fun j =>
        (hrichest j).trans (by linarith)
      have hsum : ∑ j, (balance weight rounds j + weight j) ≤ 0 :=
        sum_nonpos fun j _ => hnone j
      have hleft : 0 ≤ (rounds.count none : ℤ) * total weight := by positivity
      rw [sum_add_distrib, sum_balance, ← total] at hsum
      linarith
    · rw [if_neg hi]
      linarith [ih i]
  | @free exceptions rounds h choice ih =>
    have hweight : (0 : ℤ) < weight i := by exact_mod_cast hpos i
    have hpaid : (if choice = some i then total weight else 0) ≤ total weight := by
      split <;> linarith
    rw [balance_append_singleton]
    push_cast
    linarith [ih i]

lemma sum_erase_const (i : ι) (c : ℤ) :
    ∑ _j ∈ Finset.univ.erase i, c = (Fintype.card ι - 1) * c := by
  have hcard : 1 ≤ Fintype.card ι := Fintype.card_pos_iff.mpr ⟨i⟩
  rw [sum_const, card_erase_of_mem (mem_univ i), card_univ,
    nsmul_eq_mul, Nat.cast_sub hcard, Nat.cast_one]

section

variable (h : Greedy weight exceptions rounds)
include h

/-- What the others owe and what the exceptions have left bounds what one has. -/
theorem balance_le_sub_sum (i : ι) :
    balance weight rounds i ≤
      exceptions * total weight - ∑ j ∈ Finset.univ.erase i, balance weight rounds j := by
  have hsplit := add_sum_erase Finset.univ (balance weight rounds) (mem_univ i)
  have hleft : (rounds.count none : ℤ) * total weight ≤ exceptions * total weight :=
    mul_le_mul_of_nonneg_right (by exact_mod_cast h.count_none_le) (total_nonneg weight)
  rw [sum_balance] at hsplit
  linarith

lemma balance_le (hpos : ∀ i, 0 < weight i) (i : ι) :
    balance weight rounds i ≤ (Fintype.card ι * (exceptions + 1) - 1) * total weight := by
  have hlower : ∑ j ∈ Finset.univ.erase i, -((exceptions + 1) * total weight) ≤
      ∑ j ∈ Finset.univ.erase i, balance weight rounds j :=
    sum_le_sum fun j _ => (h.neg_total_lt hpos j).le
  rw [sum_erase_const] at hlower
  linarith [h.balance_le_sub_sum i]

lemma balance_lt (hpos : ∀ i, 0 < weight i) (hcard : 2 ≤ Fintype.card ι) (i : ι) :
    balance weight rounds i < (Fintype.card ι * (exceptions + 1) - 1) * total weight := by
  have hothers : (Finset.univ.erase i).Nonempty := by
    rw [← card_pos, card_erase_of_mem (mem_univ i), card_univ]
    omega
  have hlower : ∑ j ∈ Finset.univ.erase i, -((exceptions + 1) * total weight) <
      ∑ j ∈ Finset.univ.erase i, balance weight rounds j :=
    sum_lt_sum_of_nonempty hothers fun j _ => h.neg_total_lt hpos j
  rw [sum_erase_const] at hlower
  linarith [h.balance_le_sub_sum i]

lemma abs_balance_le (hpos : ∀ i, 0 < weight i) (i : ι) :
    |balance weight rounds i| ≤ Fintype.card ι * (exceptions + 1) * total weight := by
  have hcard : (1 : ℤ) ≤ Fintype.card ι := by exact_mod_cast Fintype.card_pos_iff.mpr ⟨i⟩
  have hdebt : 0 ≤ (exceptions + 1) * total weight :=
    mul_nonneg (by positivity) (total_nonneg weight)
  have hall := mul_le_mul_of_nonneg_right hcard hdebt
  rw [abs_le]
  constructor
  · linarith [h.neg_total_lt hpos i]
  · linarith [h.balance_le hpos i, total_nonneg weight]

end

/-- After full cycles everyone has had its share exactly. -/
theorem balance_eq_zero (h : Greedy weight 0 rounds) (hpos : ∀ i, 0 < weight i) {cycles : ℕ}
    (hlength : (rounds.length : ℤ) = cycles * total weight) (i : ι) :
    balance weight rounds i = 0 := by
  have hmultiple : ∀ j, balance weight rounds j =
      (cycles * weight j - rounds.count (some j)) * total weight := by
    intro j
    rw [balance, hlength]
    ring
  have hnonneg : ∀ j, 0 ≤ balance weight rounds j := by
    intro j
    have hdebt := h.neg_total_lt hpos j
    rw [Nat.cast_zero, hmultiple j] at hdebt
    rw [hmultiple j]
    have htotal := total_nonneg weight
    have hshare : (0 : ℤ) ≤ cycles * weight j - rounds.count (some j) := by
      by_contra hneg
      have : (cycles * weight j - rounds.count (some j) : ℤ) ≤ -1 := by omega
      have := mul_le_mul_of_nonneg_right this htotal
      linarith
    exact mul_nonneg hshare htotal
  exact (sum_eq_zero_iff_of_nonneg fun j _ => hnonneg j).mp h.sum_eq_zero i
    (mem_univ i)

end Greedy

/-! ## Choices in a row -/

lemma balance_append_replicate (i j : ι) (turns : ℕ) :
    balance weight (rounds ++ List.replicate turns (some i)) j =
      balance weight rounds j + turns * weight j -
        if i = j then turns * total weight else 0 := by
  unfold balance
  rw [count_append, count_replicate, length_append, length_replicate]
  by_cases hij : i = j
  · simp only [hij, beq_self_eq_true, if_true]
    push_cast
    ring
  · have hne : ¬ (some i = some j) := fun heq => hij (Option.some.inj heq)
    simp only [hij, hne, beq_iff_eq, if_false]
    push_cast
    ring

/-- Who is one of the richest even in the last of some turns in a row has been rich before. -/
theorem turns_le {i j : ι} (hij : i ≠ j) (turns : ℕ)
    (hrichest : balance weight (rounds ++ List.replicate turns (some i)) j + weight j ≤
      balance weight (rounds ++ List.replicate turns (some i)) i + weight i) :
    turns * (total weight - weight i + weight j) ≤
      balance weight rounds i + weight i - (balance weight rounds j + weight j) := by
  rw [balance_append_replicate, balance_append_replicate, if_neg hij, if_pos rfl] at hrichest
  linarith

end InferLab.SmoothWeights
