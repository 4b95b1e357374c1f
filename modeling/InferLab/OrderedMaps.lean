import Mathlib.Data.List.Nodup
import Mathlib.Data.List.Perm.Basic

/-!
# Maps filled entry by entry

`insertAll entries m` inserts entries one after the other. Entries of distinct keys are all kept,
in whatever order they came (`toList_insertAll_perm`); entries that come in the order of their keys
are listed as they came (`toList_insertAll_of_sorted`).
-/

namespace InferLab.OrderedMaps

open List

open Std (TreeMap TransCmp LawfulEqCmp)

variable {κ β : Type} {cmp : κ → κ → Ordering}

def insertAll (entries : List (κ × β)) (m : TreeMap κ β cmp) : TreeMap κ β cmp :=
  entries.foldl (fun m entry => m.insert entry.1 entry.2) m

variable [TransCmp cmp] [LawfulEqCmp cmp]

lemma toList_insert_perm_of_notMem [DecidableEq κ] {m : TreeMap κ β cmp} {k : κ} (h : k ∉ m)
    (v : β) : (m.insert k v).toList.Perm ((k, v) :: m.toList) := by
  have hall : (m.toList.filter fun entry => ¬ (k == entry.1)) = m.toList := by
    rw [filter_eq_self]
    intro entry hentry
    have hmem : entry.1 ∈ m := by
      rw [TreeMap.mem_iff_isSome_getElem?, TreeMap.mem_toList_iff_getElem?_eq_some.mp hentry]
      rfl
    have hne : k ≠ entry.1 := fun heq => h (heq ▸ hmem)
    simpa using hne
  have hperm : (m.insert k v).toList.Perm
      ((k, v) :: m.toList.filter fun entry => ¬ (k == entry.1)) := TreeMap.toList_insert_perm
  rwa [hall] at hperm

variable {entries : List (κ × β)}

lemma toList_insertAll_perm [DecidableEq κ] {m : TreeMap κ β cmp}
    (hnodup : (entries.map Prod.fst).Nodup) (hnew : ∀ entry ∈ entries, entry.1 ∉ m) :
    (insertAll entries m).toList.Perm (entries ++ m.toList) := by
  induction entries generalizing m with
  | nil => exact List.Perm.refl _
  | cons entry entries ih =>
    rw [map_cons, List.nodup_cons] at hnodup
    have hentry := toList_insert_perm_of_notMem (hnew entry mem_cons_self) entry.2
    have hrest : ∀ other ∈ entries, other.1 ∉ m.insert entry.1 entry.2 := by
      intro other hother hmem
      rw [TreeMap.mem_insert] at hmem
      cases hmem with
      | inl hcmp =>
        apply hnodup.1
        rw [LawfulEqCmp.eq_of_compare hcmp]
        exact mem_map_of_mem hother
      | inr hmem => exact hnew other (mem_cons_of_mem _ hother) hmem
    refine (ih hnodup.2 hrest).trans ?_
    exact (hentry.append_left entries).trans perm_middle

omit [TransCmp cmp] in
lemma nodup_of_sorted (h : entries.Pairwise fun a b => cmp a.1 b.1 = .lt) :
    (entries.map Prod.fst).Nodup := by
  rw [List.Nodup, pairwise_map]
  refine h.imp ?_
  intro a b hlt heq
  have hself : cmp b.1 b.1 = .eq := Std.ReflCmp.compare_self
  rw [heq, hself] at hlt
  contradiction

lemma toList_insertAll_of_sorted [DecidableEq κ]
    (h : entries.Pairwise fun a b => cmp a.1 b.1 = .lt) :
    (insertAll entries (∅ : TreeMap κ β cmp)).toList = entries := by
  have hperm : (insertAll entries (∅ : TreeMap κ β cmp)).toList.Perm entries := by
    have hfresh := toList_insertAll_perm (nodup_of_sorted h) fun entry _ =>
      @TreeMap.not_mem_emptyc κ β cmp entry.1
    have hnil : (∅ : TreeMap κ β cmp).toList = [] := rfl
    rwa [hnil, append_nil] at hfresh
  refine hperm.eq_of_pairwise ?_ TreeMap.ordered_keys_toList h
  intro a b _ _ hab hba
  have hswap : cmp a.1 b.1 = (cmp b.1 a.1).swap := Std.OrientedCmp.eq_swap
  rw [hswap, hba] at hab
  contradiction

end InferLab.OrderedMaps
