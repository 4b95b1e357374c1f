import Mathlib.Logic.Function.Basic
import Mathlib.Data.List.Basic

/-!
# Histories of exclusive leases

A lease of a resource is granted under a token and finished once. `Lawful` histories grant
only fresh tokens, only on resources that are free, and finish only what is outstanding.
Every token of such a history is granted once, a resource has one outstanding lease, and what
is finished is never outstanding again.
-/

namespace InferLab.Lease

open List

/-- A resource is handed out, or comes back. -/
inductive Event (R T : Type)
  | grant (r : R) (t : T)
  | finish (r : R) (t : T)
  deriving DecidableEq

variable {R T : Type} {h h' : List (Event R T)} {r r' : R} {t t' : T}

/-- The lease `t` of `r` is granted and not finished. -/
structure Outstanding (h : List (Event R T)) (r : R) (t : T) : Prop where
  granted : .grant r t ∈ h
  unfinished : ∀ r', .finish r' t ∉ h

/-- A token is new, and its resource free, when it is granted. -/
inductive Lawful : List (Event R T) → Prop
  | nil : Lawful []
  | grant {h : List (Event R T)} {r : R} {t : T} (lawful : Lawful h)
      (fresh : ∀ r', .grant r' t ∉ h) (free : ∀ t', ¬ Outstanding h r t') :
      Lawful (h ++ [.grant r t])
  | finish {h : List (Event R T)} {r : R} {t : T} (lawful : Lawful h)
      (outstanding : Outstanding h r t) : Lawful (h ++ [.finish r t])

/-- Only what was granted is finished. -/
theorem Lawful.granted (hl : Lawful h) (hf : .finish r t ∈ h) : .grant r t ∈ h := by
  induction hl with
  | nil => simp at hf
  | grant _ _ _ ih =>
    exact mem_append_left _ (ih (by simpa using hf))
  | finish _ houtstanding ih =>
    rcases mem_append.mp hf with hmem | hlast
    · exact mem_append_left _ (ih hmem)
    · obtain ⟨rfl, rfl⟩ : r = _ ∧ t = _ := by simpa using hlast
      exact mem_append_left _ houtstanding.granted

/-- A token is granted on one resource only. -/
theorem Lawful.grant_unique (hl : Lawful h) (hg : .grant r t ∈ h) (hg' : .grant r' t ∈ h) :
    r = r' := by
  induction hl with
  | nil => simp at hg
  | grant _ hfresh _ ih =>
    rcases mem_append.mp hg with hmem | hlast
    · rcases mem_append.mp hg' with hmem' | hlast'
      · exact ih hmem hmem'
      · obtain ⟨rfl, rfl⟩ : r' = _ ∧ t = _ := by simpa using hlast'
        exact absurd hmem (hfresh r)
    · obtain ⟨rfl, rfl⟩ : r = _ ∧ t = _ := by simpa using hlast
      rcases mem_append.mp hg' with hmem' | hlast'
      · exact absurd hmem' (hfresh r')
      · have : r' = r := by simpa using hlast'
        exact this.symm
  | finish _ _ ih => exact ih (by simpa using hg) (by simpa using hg')

/-! ## What is outstanding after one more event -/

lemma Lawful.outstanding_grant (hl : Lawful h) (fresh : ∀ r', .grant r' t ∉ h) :
    Outstanding (h ++ [.grant r t]) r' t' ↔ Outstanding h r' t' ∨ r' = r ∧ t' = t := by
  constructor
  · rintro ⟨hgranted, hunfinished⟩
    rcases mem_append.mp hgranted with hmem | hlast
    · exact .inl ⟨hmem, fun r₀ hf => hunfinished r₀ (mem_append_left _ hf)⟩
    · exact .inr (by simpa using hlast)
  · rintro (⟨hgranted, hunfinished⟩ | ⟨rfl, rfl⟩)
    · exact ⟨mem_append_left _ hgranted, fun r₀ hf => hunfinished r₀ (by simpa using hf)⟩
    · refine ⟨by simp, fun r₀ hf => ?_⟩
      -- a finished token was granted, and this one is fresh
      exact fresh r₀ (hl.granted (by simpa using hf))

lemma outstanding_finish :
    Outstanding (h ++ [.finish r t]) r' t' ↔ Outstanding h r' t' ∧ t' ≠ t := by
  constructor
  · rintro ⟨hgranted, hunfinished⟩
    refine ⟨⟨by simpa using hgranted, fun r₀ hf => ?_⟩, ?_⟩
    · exact hunfinished r₀ (mem_append_left _ hf)
    · rintro rfl
      exact hunfinished r (by simp)
  · rintro ⟨⟨hgranted, hunfinished⟩, hne⟩
    refine ⟨mem_append_left _ hgranted, fun r₀ hf => ?_⟩
    rcases mem_append.mp hf with hmem | hlast
    · exact hunfinished r₀ hmem
    · exact hne (by simp_all)

/-! ## Tables of the outstanding leases -/

/-- The table names the outstanding lease of each resource, if there is one. -/
def Agrees (table : R → Option T) (h : List (Event R T)) : Prop :=
  ∀ r t, table r = some t ↔ Outstanding h r t

lemma agrees_nil : Agrees (fun _ : R => (none : Option T)) [] :=
  fun r t => ⟨fun hsome => by simp at hsome, fun ⟨hgranted, _⟩ => by simp at hgranted⟩

variable {table : R → Option T}

lemma Agrees.outstanding_unique (ha : Agrees table h) (ho : Outstanding h r t)
    (ho' : Outstanding h r t') : t = t' := by
  have := (ha r t).mpr ho
  rw [(ha r t').mpr ho'] at this
  exact (Option.some.inj this).symm

variable [DecidableEq R]

/-- Granting a fresh token on a free resource is lawful, and enters it in the table. -/
theorem Agrees.grant (ha : Agrees table h) (hl : Lawful h) (fresh : ∀ r', .grant r' t ∉ h)
    (hfree : table r = none) :
    Lawful (h ++ [.grant r t]) ∧
      Agrees (Function.update table r (some t)) (h ++ [.grant r t]) := by
  have hnone : ∀ t', ¬ Outstanding h r t' := by
    intro t' ho
    rw [← ha, hfree] at ho
    simp at ho
  refine ⟨.grant hl fresh hnone, fun r' t' => ?_⟩
  rw [hl.outstanding_grant fresh]
  by_cases hr : r' = r
  · subst hr
    simp [hnone, eq_comm]
  · simp [hr, ha r' t']

/-- Finishing what the table names is lawful, and clears it. -/
theorem Agrees.finish (ha : Agrees table h) (hl : Lawful h) (hheld : table r = some t) :
    Lawful (h ++ [.finish r t]) ∧
      Agrees (Function.update table r none) (h ++ [.finish r t]) := by
  have ho := (ha r t).mp hheld
  refine ⟨.finish hl ho, fun r' t' => ?_⟩
  rw [outstanding_finish, ← ha]
  by_cases hr : r' = r
  · subst hr
    simp [hheld, eq_comm]
  · have hother : table r' = some t' → t' ≠ t := by
      rintro hsome rfl
      exact hr (hl.grant_unique ((ha r' _).mp hsome).granted ho.granted)
    simp only [Function.update_of_ne hr]
    exact ⟨fun hsome => ⟨hsome, hother hsome⟩, And.left⟩

end InferLab.Lease
