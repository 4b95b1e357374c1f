import Mathlib.Data.Nat.Notation
import Mathlib.Logic.ExistsUnique

/-!
# Ranges that fill an interval

A list of half-open ranges tiles `[first, last)` when each range begins where the one before it
ends. Then every position of the interval lies in the range of exactly one item.
-/

namespace InferLab.Tiling

open List

variable {α : Type}

/-- The ranges of `items`, in order, fill `[first, last)`. -/
def Tiles (range : α → ℕ × ℕ) : ℕ → List α → ℕ → Prop
  | first, [], last => first = last
  | first, item :: items, last =>
    (range item).1 = first ∧ first ≤ (range item).2 ∧ Tiles range (range item).2 items last

/-- Position `p` lies in the range of `item`. -/
def Covers (range : α → ℕ × ℕ) (p : ℕ) (item : α) : Prop :=
  (range item).1 ≤ p ∧ p < (range item).2

variable {range : α → ℕ × ℕ} {first last : ℕ} {items : List α}

section

variable (h : Tiles range first items last)
include h

lemma Tiles.le : first ≤ last := by
  induction items generalizing first with
  | nil => exact Nat.le_of_eq h
  | cons item items ih =>
    obtain ⟨_, hle, hrest⟩ := h
    exact Nat.le_trans hle (ih hrest)

lemma Tiles.bounds : ∀ item ∈ items, first ≤ (range item).1 ∧ (range item).2 ≤ last := by
  induction items generalizing first with
  | nil => intro item hitem; cases hitem
  | cons item items ih =>
    obtain ⟨hfirst, hle, hrest⟩ := h
    intro other hother
    rcases mem_cons.mp hother with rfl | hother
    · exact ⟨Nat.le_of_eq hfirst.symm, hrest.le⟩
    · have hbounds := ih hrest other hother
      exact ⟨Nat.le_trans hle hbounds.1, hbounds.2⟩

/-- Every position is covered, and by one item only. -/
theorem Tiles.existsUnique {p : ℕ} (hfirst : first ≤ p) (hlast : p < last) :
    ∃! item, item ∈ items ∧ Covers range p item := by
  induction items generalizing first with
  | nil =>
    have : first = last := h
    omega
  | cons item items ih =>
    obtain ⟨hstart, hle, hrest⟩ := h
    by_cases hp : p < (range item).2
    · refine ⟨item, ⟨mem_cons_self, by omega, hp⟩, ?_⟩
      rintro other ⟨hother, hcovers⟩
      rcases mem_cons.mp hother with rfl | hother
      · rfl
      · have hbounds := hrest.bounds other hother
        have : (range other).1 ≤ p := hcovers.1
        omega
    · obtain ⟨found, ⟨hfound, hcovers⟩, hunique⟩ := ih hrest (by omega)
      refine ⟨found, ⟨mem_cons_of_mem item hfound, hcovers⟩, ?_⟩
      rintro other ⟨hother, hcovers'⟩
      rcases mem_cons.mp hother with rfl | hother
      · exact absurd hcovers'.2 hp
      · exact hunique other ⟨hother, hcovers'⟩

end

end InferLab.Tiling
