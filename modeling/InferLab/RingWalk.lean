import Mathlib.Data.List.Rotate
import Mathlib.Data.List.Perm.Basic
import Mathlib.Order.Lattice

/-!
# Walking around a ring

Points with a position and an owner lie on a ring. `owners key` are the owners in the order in
which one meets them first, when one goes around from `key` on. Two facts make this a consistent
assignment: `owners_filter`, that taking away the points of an owner takes that owner out of the
list and changes nothing else, and `eq_of_perm`, that the points may be listed in any order before
they are sorted.
-/

namespace InferLab.RingWalk

open List

variable {α β γ : Type}

/-! ## First occurrences -/

section FirstOccurrences

variable [DecidableEq β] [DecidableEq γ]

/-- Induction over a list, in which the rest does not have the first element. -/
theorem filter_induction {P : List β → Prop} (nil : P [])
    (cons : ∀ b l, P (l.filter (fun c => !c == b)) → P (b :: l)) (l : List β) : P l := by
  induction hn : l.length using Nat.strongRecOn generalizing l with
  | ind n ih =>
    subst hn
    cases l with
    | nil => exact nil
    | cons b l =>
      refine cons b l (ih _ ?_ _ rfl)
      exact Nat.lt_succ_of_le (length_filter_le _ _)

/-- The elements in the order of their first occurrences, without those that `p` refuses. -/
theorem filter_eraseDups (p : β → Bool) (l : List β) :
    (l.filter p).eraseDups = l.eraseDups.filter p := by
  induction l using filter_induction with
  | nil => rfl
  | cons b l ih =>
    by_cases hb : p b = true
    · rw [filter_cons_of_pos hb, eraseDups_cons, eraseDups_cons,
        filter_cons_of_pos hb, ← ih, filter_filter, filter_filter]
      simp only [Bool.and_comm]
    · -- what comes after the first occurrence of `b` is not `b`, and `p` refuses `b` anyway
      have hsame : l.filter p = (l.filter (fun c => !c == b)).filter p := by
        rw [filter_filter]
        apply filter_congr
        intro c _
        by_cases hc : c = b
        · simp [hc, hb]
        · simp [hc]
      rw [filter_cons_of_neg hb, eraseDups_cons, filter_cons_of_neg hb, hsame, ih]

lemma nodup_eraseDups (l : List β) : l.eraseDups.Nodup := by
  induction l using filter_induction with
  | nil => exact nodup_nil
  | cons b l ih =>
    rw [eraseDups_cons, List.nodup_cons]
    refine ⟨?_, ih⟩
    rw [mem_eraseDups]
    simp

/-- Relabelling keeps the first occurrences if it keeps the labels apart. -/
theorem map_eraseDups {f : β → γ} (l : List β) (hf : ∀ b ∈ l, ∀ c ∈ l, f b = f c → b = c) :
    (l.map f).eraseDups = l.eraseDups.map f := by
  induction l using filter_induction with
  | nil => rfl
  | cons b l ih =>
    have hrest := ih fun c hc d hd =>
      hf c (mem_cons_of_mem b (mem_of_mem_filter hc)) d
        (mem_cons_of_mem b (mem_of_mem_filter hd))
    have hfilter : (l.map f).filter (fun c => !c == f b) =
        (l.filter (fun c => !c == b)).map f := by
      rw [filter_map]
      congr 1
      apply filter_congr
      intro c hc
      by_cases heq : c = b
      · simp [heq]
      · have hne : f c ≠ f b := fun hfc =>
          heq (hf c (mem_cons_of_mem b hc) b mem_cons_self hfc)
        simp [heq, hne]
    rw [map_cons, eraseDups_cons, eraseDups_cons, map_cons, hfilter, hrest]

end FirstOccurrences

/-! ## The walk -/

section Walk

variable [LinearOrder α] [DecidableEq β] [DecidableEq γ] {points : List (α × β)}

/-- The points from `key` on, once around. -/
def clockwise (key : α) (points : List (α × β)) : List (α × β) :=
  points.filter (fun point => key ≤ point.1) ++ points.filter (fun point => point.1 < key)

def owners (key : α) (points : List (α × β)) : List β :=
  ((clockwise key points).map Prod.snd).eraseDups

omit [DecidableEq β] in
/-- A list sorted by position, turned so that it begins at `key`, is the walk from `key`. -/
theorem rotate_eq_clockwise (hsorted : points.Pairwise (fun a b => a.1 ≤ b.1)) (key : α) :
    points.rotate (points.takeWhile (fun point => point.1 < key)).length =
      clockwise key points := by
  have htake : ∀ points : List (α × β), points.Pairwise (fun a b => a.1 ≤ b.1) →
      points.takeWhile (fun point => point.1 < key) =
        points.filter (fun point => point.1 < key) ∧
      points.dropWhile (fun point => point.1 < key) =
        points.filter (fun point => key ≤ point.1) := by
    intro points hsorted
    induction points with
    | nil => exact ⟨rfl, rfl⟩
    | cons point points ih =>
      obtain ⟨hfirst, hrest⟩ := pairwise_cons.mp hsorted
      obtain ⟨htake, hdrop⟩ := ih hrest
      by_cases hlt : point.1 < key
      · have hnle : ¬ key ≤ point.1 := not_le.mpr hlt
        simp [hlt, hnle, htake, hdrop]
      · -- all later points are not before `key` either
        have hle : key ≤ point.1 := not_lt.mp hlt
        have hlater : ∀ other ∈ points, key ≤ other.1 :=
          fun other hmem => hle.trans (hfirst other hmem)
        have hnone : points.filter (fun point => point.1 < key) = [] := by
          rw [filter_eq_nil_iff]
          intro other hmem
          simpa using hlater other hmem
        have hall : points.filter (fun point => key ≤ point.1) = points := by
          rw [filter_eq_self]
          intro other hmem
          simpa using hlater other hmem
        simp [hlt, hle, hnone, hall]
  obtain ⟨hbefore, hafter⟩ := htake points hsorted
  have hlength : (points.takeWhile (fun point => point.1 < key)).length ≤ points.length :=
    (takeWhile_sublist _).length_le
  have hsplit := takeWhile_append_dropWhile (p := fun point => decide (point.1 < key))
    (l := points)
  rw [rotate_eq_drop_append_take hlength, clockwise, ← hbefore, ← hafter]
  congr 1
  · exact (congrArg (List.drop _) hsplit.symm).trans drop_left
  · exact (congrArg (List.take _) hsplit.symm).trans take_left

lemma mem_owners {key : α} {owner : β} :
    owner ∈ owners key points ↔ ∃ position, (position, owner) ∈ points := by
  unfold owners clockwise
  rw [mem_eraseDups]
  simp only [map_append, mem_append, mem_map, mem_filter, decide_eq_true_eq]
  constructor
  · rintro (⟨point, ⟨hmem, -⟩, rfl⟩ | ⟨point, ⟨hmem, -⟩, rfl⟩) <;> exact ⟨point.1, hmem⟩
  · rintro ⟨position, hmem⟩
    rcases le_or_gt key position with hle | hlt
    · exact .inl ⟨(position, owner), ⟨hmem, hle⟩, rfl⟩
    · exact .inr ⟨(position, owner), ⟨hmem, hlt⟩, rfl⟩

lemma nodup_owners (key : α) (points : List (α × β)) : (owners key points).Nodup :=
  nodup_eraseDups _

/-- Without the points of some owners the walk meets the others in the same order. -/
theorem owners_filter (key : α) (points : List (α × β)) (p : β → Bool) :
    owners key (points.filter (fun point => p point.2)) = (owners key points).filter p := by
  have hmap : ∀ points : List (α × β),
      (points.filter (fun point => p point.2)).map Prod.snd = (points.map Prod.snd).filter p := by
    intro points
    rw [filter_map]
    rfl
  unfold owners clockwise
  rw [← filter_eraseDups, ← hmap, filter_append]
  simp only [filter_filter, Bool.and_comm]

/-- The owners may go by other names. -/
theorem owners_map {f : β → γ} (key : α)
    (hf : ∀ a ∈ points, ∀ b ∈ points, f a.2 = f b.2 → a.2 = b.2) :
    owners key (points.map fun point => (point.1, f point.2)) = (owners key points).map f := by
  have hclockwise : clockwise key (points.map fun point => (point.1, f point.2)) =
      (clockwise key points).map fun point => (point.1, f point.2) := by
    unfold clockwise
    rw [filter_map, filter_map, map_append]
    rfl
  have hmem : ∀ b ∈ (clockwise key points).map Prod.snd, ∃ a ∈ points, a.2 = b := by
    intro b hb
    obtain ⟨point, hpoint, rfl⟩ := mem_map.mp hb
    rcases mem_append.mp hpoint with h | h <;>
      exact ⟨point, mem_of_mem_filter h, rfl⟩
  unfold owners
  rw [hclockwise, map_map, ← map_eraseDups, map_map]
  · rfl
  · intro b hb c hc heq
    obtain ⟨x, hx, rfl⟩ := hmem b hb
    obtain ⟨y, hy, rfl⟩ := hmem c hc
    exact hf x hx y hy heq

omit [DecidableEq β] in
/-- Points at different positions are sorted in one way only. -/
theorem eq_of_perm {points' : List (α × β)} (h : points.Pairwise (fun a b => a.1 < b.1))
    (h' : points'.Pairwise (fun a b => a.1 < b.1)) (hperm : points.Perm points') :
    points = points' :=
  List.Perm.eq_of_pairwise (fun _ _ _ _ hab hba => absurd hba (lt_asymm hab)) h h' hperm

end Walk

end InferLab.RingWalk
