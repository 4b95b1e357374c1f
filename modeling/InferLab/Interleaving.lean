import InferLab.Transition
import Mathlib.Algebra.Order.BigOperators.Group.List
import Mathlib.Algebra.Order.Ring.Nat

/-!
# Tasks that run side by side

Any number of tasks share one state. In a step a new task comes, one of the tasks goes on, or the
state is altered from outside. The rules below prove what holds at every moment of every
interleaving from what one step does: a counter that tells what the tasks hold, a store from which
they take, and a property of the tasks that their steps leave to each other.
-/

namespace InferLab

open List Option

/-- What the tasks share, and where each of them is. -/
structure Ensemble (σ τ : Type) where
  shared : σ
  tasks : List τ

/-- How tasks begin and go on. A task has its choice where the code does not decide. -/
structure TaskRules (σ τ β γ : Type) where
  start : σ → Prop
  fresh : τ
  step : σ → τ → β → Option (σ × τ)
  alter : σ → γ → σ

/-- What happens next. -/
inductive Move (β γ : Type)
  | arrive
  | run (index : ℕ) (choice : β)
  | alter (event : γ)
deriving Repr, DecidableEq

namespace Ensemble

variable {σ τ β γ κ : Type} {rules : TaskRules σ τ β γ}

def act (rules : TaskRules σ τ β γ) (e : Ensemble σ τ) : Move β γ → Option (Ensemble σ τ)
  | .arrive => some { e with tasks := e.tasks ++ [rules.fresh] }
  | .run index choice => do
    let task ← e.tasks[index]?
    let (shared, next) ← rules.step e.shared task choice
    pure ⟨shared, e.tasks.set index next⟩
  | .alter event => some { e with shared := rules.alter e.shared event }

def system (rules : TaskRules σ τ β γ) : System (Ensemble σ τ) where
  init e := rules.start e.shared ∧ e.tasks = []
  step e e' := ∃ move, e.act rules move = some e'

/-- What one step does. -/
theorem step_cases {e e' : Ensemble σ τ} (h : (system rules).step e e') :
    e' = ⟨e.shared, e.tasks ++ [rules.fresh]⟩ ∨
    (∃ event, e' = ⟨rules.alter e.shared event, e.tasks⟩) ∨
    ∃ index task choice shared next, e.tasks[index]? = some task ∧
      rules.step e.shared task choice = some (shared, next) ∧
      e' = ⟨shared, e.tasks.set index next⟩ := by
  obtain ⟨move, hmove⟩ := h
  cases move with
  | arrive => exact .inl (some.inj hmove).symm
  | alter event => exact .inr (.inl ⟨event, (some.inj hmove).symm⟩)
  | run index choice =>
    obtain ⟨task, htask, hmove⟩ := bind_eq_some_iff.mp hmove
    obtain ⟨⟨shared, next⟩, hnext, hmove⟩ := bind_eq_some_iff.mp hmove
    exact .inr (.inr ⟨index, task, choice, shared, next, htask, hnext,
      (some.inj hmove).symm⟩)

/-! ## Sums over the tasks -/

/-- What all tasks hold together. -/
def total (holds : τ → ℕ) (tasks : List τ) : ℕ := (tasks.map holds).sum

variable {holds : τ → ℕ} {tasks : List τ} {task next : τ} {index : ℕ}

@[simp]
lemma total_nil : total holds [] = 0 := rfl

@[simp]
lemma total_concat : total holds (tasks ++ [task]) = total holds tasks + holds task := by
  simp [total]

/-- A task that goes on changes the sum by what it has taken and given back. -/
theorem total_set (h : tasks[index]? = some task) :
    total holds (tasks.set index next) + holds task = total holds tasks + holds next := by
  induction tasks generalizing index with
  | nil => simp at h
  | cons first rest ih =>
    cases index with
    | zero =>
      obtain rfl : first = task := by simpa using h
      simp only [set_cons_zero, total, map_cons, sum_cons]
      omega
    | succ index =>
      have hrest := ih (by simpa using h)
      simp only [set_cons_succ, total, map_cons, sum_cons] at hrest ⊢
      omega

lemma le_total (holds : τ → ℕ) (h : task ∈ tasks) : holds task ≤ total holds tasks :=
  single_le_sum (fun _ _ => Nat.zero_le _) _ (mem_map_of_mem h)

lemma total_eq_zero (h : ∀ task ∈ tasks, holds task = 0) : total holds tasks = 0 := by
  apply List.sum_eq_zero
  intro held hmem
  obtain ⟨task, htask, rfl⟩ := mem_map.mp hmem
  exact h task htask

lemma total_le_total {holds' : τ → ℕ} (h : ∀ task ∈ tasks, holds task ≤ holds' task) :
    total holds tasks ≤ total holds' tasks :=
  sum_le_sum h

variable {e : Ensemble σ τ}

/-- Induction over the moves. -/
theorem induct {P : Ensemble σ τ → Prop} (hstart : ∀ s, rules.start s → P ⟨s, []⟩)
    (harrive : ∀ e, (system rules).Reachable e → P e → P ⟨e.shared, e.tasks ++ [rules.fresh]⟩)
    (halter : ∀ e event, (system rules).Reachable e → P e →
      P ⟨rules.alter e.shared event, e.tasks⟩)
    (hrun : ∀ e index task choice s next, (system rules).Reachable e → P e →
      e.tasks[index]? = some task → rules.step e.shared task choice = some (s, next) →
        P ⟨s, e.tasks.set index next⟩)
    (h : (system rules).Reachable e) : P e := by
  suffices hboth : (system rules).Reachable e ∧ P e from hboth.2
  refine h.invariant (I := fun e => (system rules).Reachable e ∧ P e) ?_ ?_
  · rintro ⟨s, tasks⟩ ⟨hs, rfl⟩
    exact ⟨⟨_, ⟨hs, rfl⟩, .refl⟩, hstart s hs⟩
  · rintro e e' ⟨hreachable, hP⟩ hmove
    refine ⟨hreachable.trans (.single hmove), ?_⟩
    rcases step_cases hmove with
      rfl | ⟨event, rfl⟩ | ⟨index, task, choice, s, next, htask, hnext, rfl⟩
    · exact harrive e hreachable hP
    · exact halter e event hreachable hP
    · exact hrun e index task choice s next hreachable hP htask hnext

/-- A counter tells what the tasks hold, if every step changes both in the same way. A step may
use that the task's own part is in the counter. -/
theorem counted (value : κ → σ → ℕ) (holds : κ → τ → ℕ)
    (hstart : ∀ s, rules.start s → ∀ k, value k s = 0)
    (hfresh : ∀ k, holds k rules.fresh = 0)
    (halter : ∀ s event k, value k (rules.alter s event) = value k s)
    (hstep : ∀ s task choice s' next, rules.step s task choice = some (s', next) →
      (∀ k, holds k task ≤ value k s) → ∀ k, value k s' + holds k task = value k s + holds k next)
    (h : (system rules).Reachable e) (k : κ) : value k e.shared = total (holds k) e.tasks := by
  suffices hall : ∀ k, value k e.shared = total (holds k) e.tasks from hall k
  refine induct (P := fun e => ∀ k, value k e.shared = total (holds k) e.tasks) ?_ ?_ ?_ ?_ h
  · exact hstart
  · intro e _ hinv k
    rw [total_concat, hfresh, Nat.add_zero]
    exact hinv k
  · intro e event _ hinv k
    exact (halter e.shared event k).trans (hinv k)
  · intro e index task choice s next _ hinv htask hnext k
    have hbacked : ∀ k, holds k task ≤ value k e.shared := by
      intro k
      rw [hinv k]
      exact le_total _ (mem_of_getElem? htask)
    have hchange := hstep _ _ _ _ _ hnext hbacked k
    have hset : total (holds k) (e.tasks.set index next) + holds k task =
        total (holds k) e.tasks + holds k next := total_set htask
    have hbefore := hinv k
    show value k s = total (holds k) (e.tasks.set index next)
    omega

/-- What the tasks have taken from a store and what is left make up its capacity, if every step
keeps it so. -/
theorem conserved (left capacity : κ → σ → ℕ) (holds : κ → τ → ℕ)
    (hstart : ∀ s, rules.start s → ∀ k, left k s = capacity k s)
    (hfresh : ∀ k, holds k rules.fresh = 0)
    (halter : ∀ e event, (system rules).Reachable e →
      (∀ k, left k e.shared ≤ capacity k e.shared) → ∀ k,
        left k (rules.alter e.shared event) + capacity k e.shared =
          left k e.shared + capacity k (rules.alter e.shared event))
    (hstep : ∀ e task choice s next, (system rules).Reachable e → task ∈ e.tasks →
      rules.step e.shared task choice = some (s, next) → ∀ k,
        capacity k s = capacity k e.shared ∧
          left k s + holds k next = left k e.shared + holds k task)
    (h : (system rules).Reachable e) (k : κ) :
    left k e.shared + total (holds k) e.tasks = capacity k e.shared := by
  suffices hall : ∀ k, left k e.shared + total (holds k) e.tasks = capacity k e.shared from hall k
  refine induct (P := fun e => ∀ k, left k e.shared + total (holds k) e.tasks =
    capacity k e.shared) ?_ ?_ ?_ ?_ h
  · exact hstart
  · intro e _ hinv k
    rw [total_concat, hfresh, Nat.add_zero]
    exact hinv k
  · intro e event hreachable hinv k
    have hle : ∀ k, left k e.shared ≤ capacity k e.shared := by
      intro k
      rw [← hinv k]
      exact Nat.le_add_right _ _
    have hchange := halter e event hreachable hle k
    have hbefore := hinv k
    show left k (rules.alter e.shared event) + total (holds k) e.tasks =
      capacity k (rules.alter e.shared event)
    omega
  · intro e index task choice s next hreachable hinv htask hnext k
    obtain ⟨hcapacity, hchange⟩ := hstep e task choice s next hreachable
      (mem_of_getElem? htask) hnext k
    have hset : total (holds k) (e.tasks.set index next) + holds k task =
        total (holds k) e.tasks + holds k next := total_set htask
    have hbefore := hinv k
    show left k s + total (holds k) (e.tasks.set index next) = capacity k s
    omega

/-- What holds of the state and of every task, if no step of a task breaks it for the state, for
the task or for another one. -/
theorem each {I : σ → Prop} {J : σ → τ → Prop} (hstart : ∀ s, rules.start s → I s)
    (hfresh : ∀ s, I s → J s rules.fresh)
    (halter : ∀ s event, I s → I (rules.alter s event) ∧
      ∀ task, J s task → J (rules.alter s event) task)
    (hstep : ∀ e task choice s next, (system rules).Reachable e → task ∈ e.tasks →
      rules.step e.shared task choice = some (s, next) → I e.shared → J e.shared task →
        I s ∧ J s next ∧ ∀ other, J e.shared other → J s other)
    (h : (system rules).Reachable e) : I e.shared ∧ ∀ task ∈ e.tasks, J e.shared task := by
  refine induct (P := fun e => I e.shared ∧ ∀ task ∈ e.tasks, J e.shared task) ?_ ?_ ?_ ?_ h
  · intro s hs
    exact ⟨hstart s hs, fun task hmem => absurd hmem not_mem_nil⟩
  · rintro e _ ⟨hI, hJ⟩
    refine ⟨hI, fun task hmem => ?_⟩
    rcases mem_append.mp hmem with hmem | hmem
    · exact hJ task hmem
    · rw [mem_singleton.mp hmem]
      exact hfresh _ hI
  · rintro e event _ ⟨hI, hJ⟩
    obtain ⟨hI', hkeep⟩ := halter e.shared event hI
    exact ⟨hI', fun task hmem => hkeep task (hJ task hmem)⟩
  · rintro e index task choice s next hreachable ⟨hI, hJ⟩ htask hnext
    have hmem := mem_of_getElem? htask
    obtain ⟨hI', hnext', hkeep⟩ := hstep e task choice s next hreachable hmem hnext hI
      (hJ task hmem)
    refine ⟨hI', fun other hother => ?_⟩
    rcases mem_or_eq_of_mem_set hother with hother | rfl
    · exact hkeep other (hJ other hother)
    · exact hnext'

end Ensemble

end InferLab
