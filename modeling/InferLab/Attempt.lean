import Mathlib.Data.Nat.Notation

/-!
# Pre- and postconditions of computations that may fail

A computation in `EStateM` keeps the state it has reached when it fails, as code does that
throws in the middle of its updates. `Ensures` states what holds after it has returned and
what holds after it has failed, and has one rule for each way to put computations together.
-/

namespace InferLab.Attempt

variable {ε σ α β : Type}

lemma get_bind_apply (k : σ → EStateM ε σ α) (s : σ) : (get >>= k) s = k s s := rfl

/-- The result is a return in `Q` or a failure in `E`. -/
def Ends (Q : α → σ → Prop) (E : ε → σ → Prop) : EStateM.Result ε σ α → Prop
  | .ok a s => Q a s
  | .error e s => E e s

/-- Started where `P` holds, `x` returns in `Q` or fails in `E`. -/
def Ensures (P : σ → Prop) (x : EStateM ε σ α) (Q : α → σ → Prop) (E : ε → σ → Prop) : Prop :=
  ∀ s, P s → Ends Q E (x s)

variable {P P' : σ → Prop} {Q Q' : α → σ → Prop} {E E' : ε → σ → Prop} {x : EStateM ε σ α}

lemma Ends.imp {r : EStateM.Result ε σ α} (h : Ends Q E r) (hQ : ∀ a s, Q a s → Q' a s)
    (hE : ∀ e s, E e s → E' e s) : Ends Q' E' r := by
  cases r with
  | ok a s => exact hQ a s h
  | error e s => exact hE e s h

namespace Ensures

lemma pure {a : α} (h : ∀ s, P s → Q a s) : Ensures P (Pure.pure a : EStateM ε σ α) Q E := h

lemma throw {e : ε} (h : ∀ s, P s → E e s) :
    Ensures P (MonadExcept.throw e : EStateM ε σ α) Q E := h

lemma update {f : σ → σ} {Q : Unit → σ → Prop} (h : ∀ s, P s → Q () (f s)) :
    Ensures P (modify f : EStateM ε σ Unit) Q E := h

lemma bind {S : β → σ → Prop} {k : α → EStateM ε σ β} (hx : Ensures P x Q E)
    (hk : ∀ a, Ensures (Q a) (k a) S E) : Ensures P (x >>= k) S E := by
  intro s hs
  have h := hx s hs
  show Ends S E (EStateM.bind x k s)
  unfold EStateM.bind
  cases hrun : x s with
  | ok a s' =>
    rw [hrun] at h
    exact hk a s' h
  | error e s' =>
    rw [hrun] at h
    exact h

/-- Reading the state: what follows starts in the state that was read. -/
theorem read {k : σ → EStateM ε σ α} (h : ∀ s, P s → Ends Q E (k s s)) :
    Ensures P (get >>= k) Q E := h

lemma ite {c : Prop} [Decidable c] {y : EStateM ε σ α} (hx : c → Ensures P x Q E)
    (hy : ¬ c → Ensures P y Q E) : Ensures P (if c then x else y) Q E := by
  by_cases h : c
  · rw [if_pos h]
    exact hx h
  · rw [if_neg h]
    exact hy h

/-- The rule of consequence. -/
theorem imp (hx : Ensures P x Q E) (hP : ∀ s, P' s → P s) (hQ : ∀ a s, Q a s → Q' a s)
    (hE : ∀ e s, E e s → E' e s) : Ensures P' x Q' E' :=
  fun s hs => (hx s (hP s hs)).imp hQ hE

end Ensures

end InferLab.Attempt
