import Mathlib.Data.List.Pairwise

/-!
# A file that is replaced as a whole

A file is replaced by renaming another one over it. Until the directory is synced, a loss of
power may undo the last replacements, so that the file is again what it was at an earlier time.
`Storage` keeps what the file is certain to be again, what it has been before that, and what it
has become since.
-/

namespace InferLab

open List

/-- A file: what it has been, what is certain to survive, and the later contents, the newest
last. -/
structure Storage (α : Type) where
  past : List α
  durable : α
  unsynced : List α
deriving Repr, DecidableEq

namespace Storage

variable {α β : Type} (s : Storage α)

/-- What the file may be after a loss of power. -/
def contents : List α := s.durable :: s.unsynced

/-- One content after the other. What was lost with the power is not among them. -/
def history : List α := s.past ++ s.contents

/-- What a reader sees. -/
def visible : α := s.unsynced.getLast?.getD s.durable

def replace (a : α) : Storage α := { s with unsynced := s.unsynced ++ [a] }

/-- The directory is synced. -/
def sync : Storage α := ⟨s.past ++ s.contents.dropLast, s.visible, []⟩

/-- Power is lost, and `kept` of the replacements survive. -/
def lose (kept : ℕ) : Storage α := sync { s with unsynced := s.unsynced.take kept }

def map (f : α → β) : Storage β := ⟨s.past.map f, f s.durable, s.unsynced.map f⟩

lemma visible_eq_getLast : s.visible = s.contents.getLast (cons_ne_nil _ _) := by
  unfold visible contents
  rcases eq_nil_or_concat s.unsynced with hnil | ⟨before, last, hlast⟩
  · simp [hnil]
  · simp [hlast, getLast_cons]

lemma visible_mem : s.visible ∈ s.contents := by
  rw [visible_eq_getLast]
  exact getLast_mem _

lemma mem_history {a : α} (h : a ∈ s.contents) : a ∈ s.history := mem_append_right _ h

@[simp]
lemma visible_replace (a : α) : (s.replace a).visible = a := by
  simp [visible, replace]

@[simp]
lemma contents_replace (a : α) : (s.replace a).contents = s.contents ++ [a] := rfl

@[simp]
lemma history_replace (a : α) : (s.replace a).history = s.history ++ [a] := by
  simp [history, replace, contents]

@[simp]
lemma history_sync : s.sync.history = s.history := by
  have h : s.contents.dropLast ++ [s.visible] = s.contents := by
    rw [visible_eq_getLast]
    exact dropLast_concat_getLast _
  show (s.past ++ s.contents.dropLast) ++ [s.visible] = s.past ++ s.contents
  rw [append_assoc, h]

/-- Power takes away the newest contents and no others. -/
theorem history_lose (kept : ℕ) : (s.lose kept).history <+: s.history := by
  rw [lose, history_sync]
  exact ⟨s.unsynced.drop kept, by simp [history, contents]⟩

lemma lose_mem (kept : ℕ) : (s.lose kept).durable ∈ s.contents := by
  have h := visible_mem { s with unsynced := s.unsynced.take kept }
  rcases mem_cons.mp h with heq | hmem
  · exact mem_cons.mpr (.inl heq)
  · exact mem_cons_of_mem _ (mem_of_mem_take hmem)

section

variable (f : α → β)

@[simp]
lemma map_contents : (s.map f).contents = s.contents.map f := rfl

@[simp]
lemma map_history : (s.map f).history = s.history.map f := by
  simp [history, map, contents]

@[simp]
lemma map_visible : (s.map f).visible = f s.visible := by
  simp only [visible, map, List.getLast?_map]
  cases s.unsynced.getLast? <;> rfl

lemma map_replace (a : α) : (s.replace a).map f = (s.map f).replace (f a) := by
  simp [map, replace]

lemma map_sync : s.sync.map f = (s.map f).sync := by
  unfold sync
  rw [map_visible, map_contents]
  simp [map, map_dropLast]

lemma map_lose (kept : ℕ) : (s.lose kept).map f = (s.map f).lose kept := by
  unfold lose
  rw [map_sync]
  simp [map, map_take]

end

/-! ## Contents that only grow -/

/-- Later contents are above earlier ones. -/
def Grows (R : α → α → Prop) : Prop := s.history.Pairwise R

variable {s} {R : α → α → Prop}

lemma grows_singleton (a : α) : Grows ⟨[], a, []⟩ R := pairwise_singleton R a

/-- What is above the newest content is above all of them. -/
theorem Grows.of_visible (h : s.Grows R) (hrefl : ∀ a, R a a)
    (htrans : ∀ a b c, R a b → R b c → R a c) {a : α} (ha : R s.visible a) :
    ∀ b ∈ s.history, R b a := by
  intro b hb
  suffices R b s.visible from htrans b s.visible a this ha
  rw [Grows, ← history_sync] at h
  rw [← history_sync] at hb
  rcases mem_append.mp hb with hmem | hmem
  · exact (pairwise_append.mp h).2.2 b hmem s.visible (mem_singleton_self _)
  · rw [mem_singleton.mp hmem]
    exact hrefl _

lemma Grows.replace (h : s.Grows R) (hrefl : ∀ a, R a a)
    (htrans : ∀ a b c, R a b → R b c → R a c) {a : α} (ha : R s.visible a) :
    (s.replace a).Grows R := by
  unfold Grows
  rw [history_replace, pairwise_append]
  refine ⟨h, pairwise_singleton R a, fun b hb c hc => ?_⟩
  rw [mem_singleton.mp hc]
  exact h.of_visible hrefl htrans ha b hb

lemma Grows.sync (h : s.Grows R) : s.sync.Grows R := by
  rw [Grows, history_sync]
  exact h

lemma Grows.lose (h : s.Grows R) (kept : ℕ) : (s.lose kept).Grows R :=
  List.Pairwise.sublist (s.history_lose kept).sublist h

end Storage

end InferLab
