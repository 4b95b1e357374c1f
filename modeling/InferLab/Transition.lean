import Mathlib.Logic.Relation
import Mathlib.Data.List.Chain

/-!
# Transition systems, their runs and simulations

A `System` says where it may start and what one step may do. `IsRun` is a run written out
state by state, so that statements about two moments of one run can be made about two
members of a list. `Simulation` is the rule by which a system inherits what is proved about
a more abstract one.
-/

namespace InferLab

open List

/-- Where a system starts and what one step of it may do. -/
structure System (σ : Type) where
  init : σ → Prop
  step : σ → σ → Prop

namespace System

variable {σ τ : Type} (T : System σ) {s s' x : σ} {run : List σ}

/-- `s'` comes after `s`, or is `s`. -/
def Steps : σ → σ → Prop := Relation.ReflTransGen T.step

def Reachable (s : σ) : Prop := ∃ s₀, T.init s₀ ∧ T.Steps s₀ s

/-- A run, as the list of its states from the start on. -/
structure IsRun (run : List σ) : Prop where
  starts : ∃ s₀ ∈ run.head?, T.init s₀
  chain : run.IsChain T.step

variable {T}

/-- What holds at the start and is kept by every step from a state where it holds. -/
theorem Reachable.invariant {I : σ → Prop} (hinit : ∀ s, T.init s → I s)
    (hstep : ∀ s s', I s → T.step s s' → I s') (h : T.Reachable s) : I s := by
  obtain ⟨s₀, h₀, hsteps⟩ := h
  induction hsteps with
  | refl => exact hinit s₀ h₀
  | tail _ hlast ih => exact hstep _ _ ih hlast

lemma Reachable.trans (h : T.Reachable s) (hsteps : T.Steps s s') : T.Reachable s' := by
  obtain ⟨s₀, h₀, hpre⟩ := h
  exact ⟨s₀, h₀, hpre.trans hsteps⟩

/-- Where the steps are those of a function, a list of actions that it carries out is a run. -/
theorem Steps.of_actions {β : Type} {f : σ → β → Option σ}
    (hf : ∀ s action s', f s action = some s' → T.step s s') {actions : List β}
    (h : actions.foldlM f s = some s') : T.Steps s s' := by
  induction actions generalizing s with
  | nil =>
    cases h
    exact .refl
  | cons action actions ih =>
    rw [foldlM_cons] at h
    obtain ⟨next, hnext, hrest⟩ := Option.bind_eq_some_iff.mp h
    exact .head (hf s action next hnext) (ih hrest)

/-! ## Runs -/

private lemma steps_of_isChain_cons {a : σ} {l : List σ} (h : (a :: l).IsChain T.step)
    (hx : x ∈ a :: l) : T.Steps a x := by
  induction l generalizing a with
  | nil =>
    obtain rfl := mem_singleton.mp hx
    exact .refl
  | cons b l ih =>
    rcases mem_cons.mp hx with rfl | hx
    · exact .refl
    · rw [isChain_cons_cons] at h
      exact .head h.1 (ih h.2 hx)

lemma IsRun.reachable (h : T.IsRun run) (hs : s ∈ run) : T.Reachable s := by
  obtain ⟨s₀, hhead, h₀⟩ := h.starts
  cases run with
  | nil => simp at hs
  | cons a l =>
    obtain rfl : a = s₀ := by simpa using hhead
    exact ⟨a, h₀, steps_of_isChain_cons h.chain hs⟩

/-- Of two states of a run one comes after the other. -/
theorem IsRun.steps_or_steps (h : T.IsRun run) (hs : s ∈ run) (hs' : s' ∈ run) :
    T.Steps s s' ∨ T.Steps s' s := by
  have hchain := h.chain
  clear h
  induction run with
  | nil => simp at hs
  | cons a l ih =>
    rcases mem_cons.mp hs with rfl | hmem
    · exact .inl (steps_of_isChain_cons hchain hs')
    · rcases mem_cons.mp hs' with rfl | hmem'
      · exact .inr (steps_of_isChain_cons hchain hs)
      · exact ih hmem hmem' hchain.tail

lemma IsRun.step_of_infix (h : T.IsRun run) (hstep : [s, s'] <:+: run) : T.step s s' := by
  have := h.chain.infix hstep
  simpa using this

/-- Where something comes to hold in a run, there is a first step that makes it hold. -/
theorem IsRun.exists_first (h : T.IsRun run) {I : σ → Prop} (hinit : ∀ s, T.init s → ¬ I s)
    (hx : x ∈ run) (hI : I x) :
    ∃ before s s' after, run = before ++ s :: s' :: after ∧ (∀ y ∈ before ++ [s], ¬ I y) ∧
      I s' := by
  obtain ⟨s₀, hhead, h₀⟩ := h.starts
  obtain ⟨l, rfl⟩ : ∃ l, run = s₀ :: l := by
    cases run with
    | nil => simp at hx
    | cons a l => exact ⟨l, by simpa using hhead⟩
  have hnot := hinit s₀ h₀
  clear h hhead h₀
  induction l generalizing s₀ with
  | nil =>
    obtain rfl := mem_singleton.mp hx
    exact absurd hI hnot
  | cons a l ih =>
    have hmem : x ∈ a :: l := by
      rcases mem_cons.mp hx with rfl | hmem
      · exact absurd hI hnot
      · exact hmem
    by_cases ha : I a
    · exact ⟨[], s₀, a, l, rfl, by simpa using hnot, ha⟩
    · obtain ⟨before, s, s', after, heq, hbefore, hs'⟩ := ih a hmem ha
      refine ⟨s₀ :: before, s, s', after, by rw [heq]; rfl, ?_, hs'⟩
      intro y hy
      rcases mem_cons.mp hy with rfl | hy
      · exact hnot
      · exact hbefore y hy

/-! ## Simulations -/

/-- `R` relates every state of `T` to one of `A` that has followed it. -/
structure Simulation (T : System σ) (A : System τ) (R : σ → τ → Prop) : Prop where
  init : ∀ s, T.init s → ∃ a, A.init a ∧ R s a
  step : ∀ s s' a, R s a → T.step s s' → ∃ a', A.Steps a a' ∧ R s' a'

namespace Simulation

variable {A : System τ} {R : σ → τ → Prop} {a : τ}

lemma steps (h : Simulation T A R) (hR : R s a) (hsteps : T.Steps s s') :
    ∃ a', A.Steps a a' ∧ R s' a' := by
  induction hsteps with
  | refl => exact ⟨a, .refl, hR⟩
  | tail _ hlast ih =>
    obtain ⟨b, hab, hb⟩ := ih
    obtain ⟨c, hbc, hc⟩ := h.step _ _ b hb hlast
    exact ⟨c, hab.trans hbc, hc⟩

lemma reachable (h : Simulation T A R) (hs : T.Reachable s) : ∃ a, A.Reachable a ∧ R s a := by
  obtain ⟨s₀, h₀, hsteps⟩ := hs
  obtain ⟨a₀, ha₀, hR⟩ := h.init s₀ h₀
  obtain ⟨a, ha, hRa⟩ := h.steps hR hsteps
  exact ⟨a, ⟨a₀, ha₀, ha⟩, hRa⟩

end Simulation

end System

end InferLab
