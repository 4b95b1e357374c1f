import Mathlib.Tactic.Common
import InferLab.ControlPlane.Model

/-!
# The stable storage of a node

`storage.rs`. A save replaces the whole file atomically, so the file always holds one
complete `PersistentState`; what is left to model is the check that both `load` and `save`
make. The event journal is not read back by a node and is left out.
-/

namespace InferLab.ControlPlane

variable {Id : Type}

/-- The loop over log entries of `validate_persistent_state` and `validate_incoming_entries`:
`before` entries come before the list, and `describe` words the first entry that is off. -/
def checkEntries (describe : ℕ → LogEntry → String) : ℕ → List LogEntry → Except String Unit
  | _, [] => .ok ()
  | before, entry :: rest =>
    if entry.index ≠ before + 1 ∨ entry.term = 0 then
      .error (describe before entry)
    else
      checkEntries describe (before + 1) rest

def validatePersistentState (state : PersistentState Id) : Except String Unit :=
  match if state.clusterId = "" then .ok () else validateClusterId state.clusterId with
  | .error error => .error s!"invalid persisted cluster identity: {error}"
  | .ok () =>
    if state.commitIndex > state.log.length then
      .error s!"commit_index {state.commitIndex} exceeds log length {state.log.length}"
    else
      checkEntries
        (fun offset entry =>
          s!"invalid log entry at offset {offset}: index={entry.index}, term={entry.term}")
        0 state.log

/-- `StableStorage::load` on a file that holds `file`. -/
def load (file : PersistentState Id) : Except String (PersistentState Id) := do
  validatePersistentState file
  return file

/-- `StableStorage::save`: what the file holds afterwards. -/
def save (state : PersistentState Id) : Except String (PersistentState Id) := do
  validatePersistentState state
  return state

/-! ## What passes the checks -/

/-- The entries carry their own positions, from `before + 1` on, and positive terms. -/
def Indexed (before : ℕ) (entries : List LogEntry) : Prop :=
  ∀ i e, entries[i]? = some e → e.index = before + i + 1 ∧ e.term ≠ 0

lemma indexed_cons {before : ℕ} {entry : LogEntry} {rest : List LogEntry} :
    Indexed before (entry :: rest) ↔
      (entry.index = before + 1 ∧ entry.term ≠ 0) ∧ Indexed (before + 1) rest := by
  constructor
  · intro h
    refine ⟨h 0 entry rfl, fun i e he => ?_⟩
    have := h (i + 1) e (by simpa using he)
    omega
  · rintro ⟨h0, h⟩ i e he
    cases i with
    | zero =>
      obtain rfl : entry = e := by simpa using he
      exact h0
    | succ i =>
      have := h i e (by simpa using he)
      omega

lemma checkEntries_eq_ok (describe : ℕ → LogEntry → String) (before : ℕ)
    (entries : List LogEntry) :
    checkEntries describe before entries = .ok () ↔ Indexed before entries := by
  induction entries generalizing before with
  | nil => simp [checkEntries, Indexed]
  | cons entry rest ih =>
    rw [checkEntries, indexed_cons]
    by_cases hentry : entry.index = before + 1 ∧ entry.term ≠ 0
    · rw [if_neg (by simpa [not_or] using hentry), ih]
      simp only [hentry, true_and, not_false_eq_true, ne_eq]
    · rw [if_pos (by simpa [imp_iff_not_or] using hentry)]
      simp only [hentry, false_and, reduceCtorEq]

/-- A state that the check accepts. -/
structure PersistentState.WellFormed (clusterId : String) (state : PersistentState Id) :
    Prop where
  clusterId_eq : state.clusterId = clusterId
  commitIndex_le : state.commitIndex ≤ state.log.length
  indexed : Indexed 0 state.log

variable {state : PersistentState Id}

lemma PersistentState.WellFormed.validate_eq {clusterId : String} (h : state.WellFormed clusterId)
    (hid : validateClusterId clusterId = .ok ()) : validatePersistentState state = .ok () := by
  have hid' : (if state.clusterId = "" then .ok () else validateClusterId state.clusterId) =
      Except.ok () := by
    rw [h.clusterId_eq, hid, ite_self]
  unfold validatePersistentState
  rw [hid']
  simp only [if_neg (Nat.not_lt.mpr h.commitIndex_le)]
  exact (checkEntries_eq_ok _ _ _).mpr h.indexed

/-- What the check accepts is well-formed. -/
theorem PersistentState.wellFormed_of_validate (h : validatePersistentState state = .ok ()) :
    state.WellFormed state.clusterId := by
  unfold validatePersistentState at h
  split at h
  · simp at h
  · split_ifs at h with hcommit
    exact ⟨rfl, Nat.not_lt.mp hcommit, (checkEntries_eq_ok _ _ _).mp h⟩

lemma PersistentState.WellFormed.save_eq {clusterId : String} (h : state.WellFormed clusterId)
    (hid : validateClusterId clusterId = .ok ()) : save state = .ok state := by
  rw [save, h.validate_eq hid]
  rfl

lemma PersistentState.WellFormed.load_eq {clusterId : String} (h : state.WellFormed clusterId)
    (hid : validateClusterId clusterId = .ok ()) : load state = .ok state :=
  h.save_eq hid

end InferLab.ControlPlane
