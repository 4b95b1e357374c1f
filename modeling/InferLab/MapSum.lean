import Mathlib.Algebra.BigOperators.Group.List.Lemmas
import Mathlib.Algebra.Module.NatInt
import Mathlib.Data.List.Perm.Basic

/-!
# Sums over the values of an ordered map

`sumOf f m` adds `f` over the values of `m`. Inserting a value adds it, and takes away the one
it replaces: `sumOf_insert`.
-/

namespace InferLab.MapSum

open List Option

open Std (TreeMap TransCmp LawfulEqCmp)

variable {κ β : Type} {cmp : κ → κ → Ordering}

def sumOf (f : β → ℕ) (m : TreeMap κ β cmp) : ℕ := (m.toList.map fun entry => f entry.2).sum

lemma sumOf_add (f g : β → ℕ) (m : TreeMap κ β cmp) :
    sumOf (fun v => f v + g v) m = sumOf f m + sumOf g m := by
  unfold sumOf
  rw [← sum_map_add]

lemma sumOf_one (m : TreeMap κ β cmp) : sumOf (fun _ => 1) m = m.size := by
  unfold sumOf
  rw [map_const', sum_replicate, TreeMap.length_toList, smul_eq_mul, mul_one]

variable [TransCmp cmp] [LawfulEqCmp cmp]

lemma nodup_toList (m : TreeMap κ β cmp) : m.toList.Nodup := by
  refine m.distinct_keys_toList.imp ?_
  rintro a b hne rfl
  exact hne Std.ReflCmp.compare_self

variable [DecidableEq κ]

/-- The entries of a map: the one of a key, and those of the others. -/
theorem toList_perm {m : TreeMap κ β cmp} {k : κ} {v : β} (h : m[k]? = some v) :
    m.toList.Perm ((k, v) :: m.toList.filter fun entry => ¬ (k == entry.1)) := by
  have hsame : m.toList.Perm (m.insert k v).toList := by
    rw [perm_ext_iff_of_nodup (nodup_toList m) (nodup_toList _)]
    rintro ⟨a, b⟩
    rw [TreeMap.mem_toList_iff_getElem?_eq_some, TreeMap.mem_toList_iff_getElem?_eq_some,
      TreeMap.getElem?_insert]
    split_ifs with hcmp
    · rw [← Std.LawfulEqCmp.eq_of_compare hcmp, h]
    · exact Iff.rfl
  exact hsame.trans TreeMap.toList_insert_perm

lemma sumOf_eq_of_getElem? {m : TreeMap κ β cmp} {k : κ} {v : β} (f : β → ℕ)
    (h : m[k]? = some v) :
    sumOf f m = f v + ((m.toList.filter fun entry => ¬ (k == entry.1)).map
      fun entry => f entry.2).sum := by
  have hperm := (toList_perm h).map fun entry => f entry.2
  rw [sumOf, hperm.sum_eq, map_cons, sum_cons]

/-- A value that is inserted is added, and the one it replaces is taken away. -/
theorem sumOf_insert (f : β → ℕ) (m : TreeMap κ β cmp) (k : κ) (v : β) :
    sumOf f (m.insert k v) + (m[k]?.map f).getD 0 = sumOf f m + f v := by
  have hperm : (m.insert k v).toList.Perm
      ((k, v) :: m.toList.filter fun entry => ¬ (k == entry.1)) := TreeMap.toList_insert_perm
  have hinsert : sumOf f (m.insert k v) = f v +
      ((m.toList.filter fun entry => ¬ (k == entry.1)).map fun entry => f entry.2).sum := by
    rw [sumOf, (hperm.map fun entry => f entry.2).sum_eq, map_cons, sum_cons]
  cases hget : m[k]? with
  | some old =>
    rw [hinsert, sumOf_eq_of_getElem? f hget]
    simp only [map_some, getD_some]
    omega
  | none =>
    have hall : (m.toList.filter fun entry => ¬ (k == entry.1)) = m.toList := by
      rw [filter_eq_self]
      rintro ⟨a, b⟩ hmem
      rw [TreeMap.mem_toList_iff_getElem?_eq_some] at hmem
      have hne : k ≠ a := by
        rintro rfl
        rw [hget] at hmem
        simp at hmem
      simp [hne]
    rw [hinsert, hall, map_none, getD_none, Nat.add_zero, Nat.add_comm]
    rfl

end InferLab.MapSum
