import Mathlib.Data.Nat.Notation

/-!
# Checks that end a computation

`require` ends a computation with an error unless a condition holds. A computation in `Except`
that succeeds is taken apart with `of_bind`, `of_require` and `of_ite_eq`.
-/

namespace InferLab

/-- Ends with `error` unless `condition` holds. -/
def require {ε : Type} {m : Type → Type} [Monad m] [MonadExceptOf ε m] (condition : Bool)
    (error : ε) : m Unit :=
  if condition then pure () else throw error

section Except

variable {ε ε' α β : Type} {x : Except ε α} {a : α}

/-- A sequence of two computations succeeds when both do. -/
theorem bind_eq_ok_iff {k : α → Except ε β} {b : β} :
    (x >>= k) = .ok b ↔ ∃ a, x = .ok a ∧ k a = .ok b := by
  cases x <;> simp [bind, Except.bind]

lemma of_bind {k : α → Except ε β} {b : β} (h : (x >>= k) = .ok b) : ∃ a, x = .ok a ∧ k a = .ok b :=
  bind_eq_ok_iff.mp h

lemma require_eq_ok_iff {condition : Bool} {error : ε} {u : Unit} :
    (require condition error : Except ε Unit) = .ok u ↔ condition = true := by
  cases condition <;> simp [require, throw, throwThe, MonadExceptOf.throw, pure, Except.pure]

lemma of_require {condition : Bool} {error : ε} {u : Unit}
    (h : (require condition error : Except ε Unit) = .ok u) : condition = true :=
  require_eq_ok_iff.mp h

/-- What is not the first branch is the second. -/
theorem of_ite_eq {c : Prop} [Decidable c] {b y : α} (h : (if c then a else b) = y) (hne : a ≠ y) :
    ¬c ∧ b = y := by
  by_cases hc : c
  · exact absurd ((if_pos hc).symm.trans h) hne
  · exact ⟨hc, (if_neg hc).symm.trans h⟩

lemma mapError_eq_ok_iff {f : ε → ε'} : x.mapError f = .ok a ↔ x = .ok a := by
  constructor
  · intro h
    cases x with
    | ok b =>
      cases h
      rfl
    | error e => cases h
  · rintro rfl
    rfl

lemma of_mapError {f : ε → ε'} (h : x.mapError f = .ok a) : x = .ok a :=
  mapError_eq_ok_iff.mp h

lemma exists_eq_ok_of_isOk (h : x.isOk = true) : ∃ a, x = .ok a := by
  cases x with
  | ok a => exact ⟨a, rfl⟩
  | error e => cases h

lemma of_forM {f : α → Except ε Unit} {l : List α} {u : Unit} (h : l.forM f = .ok u) :
    ∀ a ∈ l, f a = .ok () := by
  induction l with
  | nil => exact fun _ ha => absurd ha List.not_mem_nil
  | cons a l ih =>
    obtain ⟨_, hfirst, hrest⟩ := of_bind h
    exact List.forall_mem_cons.mpr ⟨hfirst, ih hrest⟩

end Except

end InferLab
