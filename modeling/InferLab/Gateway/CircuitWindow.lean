import InferLab.Gateway.CircuitHistory

/-!
# The outcomes that a closed circuit counts

While a circuit is closed its window is the end of the list of outcomes that have been reported
since it was closed, by attempts that were granted since then, and this window does not open
it. The attempts that were granted earlier do not count, because they are stale.
-/

namespace InferLab.Gateway

open List CircuitHistory

variable {config : CircuitBreakerConfig} {w : CircuitHistory} {action : CircuitAction}
  {held : HeldAttempt} {index : ℕ} {failed : Bool} {now : ℕ}

/-- The last `n` outcomes, or all if there are fewer. -/
def lastOutcomes (n : ℕ) (outcomes : List Bool) : List Bool :=
  outcomes.drop (outcomes.length - n)

lemma length_lastOutcomes (n : ℕ) (outcomes : List Bool) :
    (lastOutcomes n outcomes).length = min outcomes.length n := by
  rw [lastOutcomes, length_drop]
  omega

/-- Pushing an outcome onto the last ones leaves the last ones. -/
theorem pushOutcome_lastOutcomes {n : ℕ} (hn : 0 < n) (outcomes : List Bool) (failed : Bool) :
    pushOutcome n (lastOutcomes n outcomes) failed = lastOutcomes n (outcomes ++ [failed]) := by
  have hlength := length_lastOutcomes n outcomes
  unfold pushOutcome
  by_cases hfull : n ≤ outcomes.length
  · have hne : lastOutcomes n outcomes ≠ [] := by
      rw [← length_pos_iff]
      omega
    rw [if_pos (by rw [length_append, length_singleton]; omega),
      tail_append_of_ne_nil hne]
    unfold lastOutcomes
    rw [tail_drop, length_append, length_singleton,
      drop_append_of_le_length (by omega)]
    congr 2
    omega
  · rw [if_neg (by rw [length_append, length_singleton]; omega)]
    have hshort : outcomes.length - n = 0 := by omega
    have hshort' : (outcomes ++ [failed]).length - n = 0 := by
      rw [length_append, length_singleton]
      omega
    rw [lastOutcomes, lastOutcomes, hshort, hshort', drop_zero, drop_zero]

/-- What is known about the window of a closed circuit. -/
structure Windowed (config : CircuitBreakerConfig) (w : CircuitHistory) : Prop where
  resolved_le : ∀ entry ∈ w.resolved, entry.1 ≤ w.epoch
  window : w.data.state = .closed →
    w.data.outcomes = lastOutcomes config.windowSize w.currentOutcomes
  keeps : w.data.state = .closed → shouldOpen w.data.outcomes config = false

lemma shouldOpen_nil (h : 0 < config.minimumRequests) : shouldOpen [] config = false := by
  simp [shouldOpen, h]

lemma windowed_new (hmin : 0 < config.minimumRequests) : Windowed config .new where
  resolved_le := by simp [new]
  window := by simp [new, CircuitData.new, currentOutcomes, lastOutcomes]
  keeps := fun _ => shouldOpen_nil hmin

lemma le_become_epoch (w : CircuitHistory) (data : CircuitData) :
    w.epoch ≤ (w.become data).epoch := by
  unfold become
  dsimp only
  split <;> omega

/-- A step that reports no outcome, and does not close the circuit. -/
theorem Windowed.keep {w' : CircuitHistory} (h : Windowed config w)
    (hresolved : w'.resolved = w.resolved) (hepoch : w.epoch ≤ w'.epoch)
    (hclosed : w'.data.state = .closed →
      w.data.state = .closed ∧ w'.epoch = w.epoch ∧ w'.data.outcomes = w.data.outcomes) :
    Windowed config w' where
  resolved_le := by
    intro entry hentry
    rw [hresolved] at hentry
    exact Nat.le_trans (h.resolved_le entry hentry) hepoch
  window := by
    intro hstate
    obtain ⟨hstate', hsame, houtcomes⟩ := hclosed hstate
    rw [houtcomes, h.window hstate', currentOutcomes,
      currentOutcomes, hresolved, hsame]
  keeps := by
    intro hstate
    obtain ⟨hstate', -, houtcomes⟩ := hclosed hstate
    rw [houtcomes, h.keeps hstate']

lemma refreshOpenState_eq_closed {data : CircuitData}
    (h : (data.refreshOpenState now).state = .closed) :
    data.state = .closed ∧ data.refreshOpenState now = data := by
  unfold CircuitData.refreshOpenState at h ⊢
  split at h
  · split at h
    · simp at h
    · rename_i hstate _
      simp [hstate] at h
  · exact ⟨h, rfl⟩

lemma Windowed.refresh (h : Windowed config w) (now : ℕ) :
    Windowed config (w.become (w.data.refreshOpenState now)) := by
  refine h.keep rfl (le_become_epoch w _) fun hstate => ?_
  obtain ⟨hclosed, hsame⟩ := refreshOpenState_eq_closed hstate
  rw [hsame]
  exact ⟨hclosed, become_epoch_of_name_eq rfl, rfl⟩

lemma Windowed.acquire (h : Windowed config w) (now : ℕ) :
    Windowed config (w.step config (.acquire now)) := by
  have hcases := tryAcquireAt_cases w.data now
  have hrefreshed := h.refresh now
  simp only [step]
  generalize w.data.tryAcquireAt now = result at hcases ⊢
  generalize w.data.refreshOpenState now = data at hrefreshed hcases
  cases hcases with
  | granted | refused => exact hrefreshed.keep rfl (Nat.le_refl _) fun hstate => ⟨hstate, rfl, rfl⟩
  | probed =>
    refine h.keep rfl (le_become_epoch w _) fun hstate => ?_
    simp [become] at hstate

lemma cancel_eq_of_closed {data : CircuitData} {attempt : CircuitAttempt}
    (h : (data.cancel attempt).state = .closed) : data.cancel attempt = data := by
  unfold CircuitData.cancel at h ⊢
  split
  · rename_i hhalfOpen
    simp only [*] at h
    split at h
    · simp at h
    · simp [hhalfOpen] at h
  · rfl

lemma Windowed.drop (h : Windowed config w) (index : ℕ) :
    Windowed config (w.step config (.drop index)) := by
  simp only [step]
  split
  · exact h
  · refine h.keep rfl (le_become_epoch w _) fun hstate => ?_
    have hsame := cancel_eq_of_closed hstate
    rw [hsame] at hstate ⊢
    exact ⟨hstate, become_epoch_of_name_eq rfl, rfl⟩

/-! ## Resolutions -/

/-- An outcome counts if its attempt was granted since the circuit last moved. -/
theorem currentOutcomes_concat (w : CircuitHistory) (data : CircuitData)
    (live : List HeldAttempt) (epoch : ℕ) (failed : Bool) :
    currentOutcomes
        ⟨data, w.epoch, live, w.resolved ++ [(epoch, failed)]⟩ =
      if epoch = w.epoch then w.currentOutcomes ++ [failed] else w.currentOutcomes := by
  unfold currentOutcomes
  dsimp only
  rw [filter_append, map_append]
  by_cases heq : epoch = w.epoch <;> simp [heq]

lemma Windowed.resolve (h : Windowed config w) (hd : Disciplined w)
    (hsize : 0 < config.windowSize) (hmin : 0 < config.minimumRequests)
    (hget : w.live[index]? = some held) (failed : Bool) (now : ℕ) :
    Windowed config (w.step config (.resolve index failed now)) := by
  have hmem := mem_of_getElem? hget
  have hle : ∀ entry ∈ w.resolved ++ [(held.epoch, failed)], entry.1 ≤ w.epoch := by
    intro entry hentry
    rcases mem_append.mp hentry with hold | hnew
    · exact h.resolved_le entry hold
    · obtain rfl := mem_singleton.mp hnew
      exact hd.epoch_le held hmem
  have hle' : ∀ data : CircuitData, ∀ entry ∈ w.resolved ++ [(held.epoch, failed)],
      entry.1 ≤ (w.become data).epoch :=
    fun data entry hentry => Nat.le_trans (hle entry hentry) (le_become_epoch w data)
  have hcases := resolve_cases config w.data held.attempt failed now
  simp only [step, hget]
  generalize w.data.resolve config held.attempt failed now = data at hcases ⊢
  cases hcases with
  | ignored hstale =>
    refine ⟨hle' _, fun hstate => ?_, h.keeps⟩
    have hne : held.epoch ≠ w.epoch := by
      intro heq
      obtain ⟨hgeneration, haccepts⟩ := hd.current held hmem heq
      rw [hstale hgeneration.symm] at haccepts
      simp at haccepts
    have hepoch : (w.become w.data).epoch = w.epoch := become_epoch_of_name_eq rfl
    rw [hepoch, currentOutcomes_concat, if_neg hne]
    exact h.window hstate
  | counted hgeneration hkind hstate hkeeps =>
    refine ⟨hle' _, fun _ => ?_, fun _ => hkeeps⟩
    have hcurrent := hd.epoch_eq_of_generation_eq hget hgeneration
    rw [become_epoch_of_name_eq (by simp), currentOutcomes_concat, if_pos hcurrent,
      ← pushOutcome_lastOutcomes hsize, ← h.window hstate]
    rfl
  | opened | reopened =>
    refine ⟨hle' _, fun hstate => ?_, fun hstate => ?_⟩ <;>
      simp [become, CircuitData.openCircuit] at hstate
  | recovered hgeneration hkind hstate =>
    refine ⟨hle' _, fun _ => ?_, fun _ => shouldOpen_nil hmin⟩
    have hnone : (w.resolved ++ [(held.epoch, failed)]).filter
        (fun entry => entry.1 = w.epoch + 1) = [] := by
      rw [filter_eq_nil_iff]
      intro entry hentry
      have := hle entry hentry
      simp only [decide_eq_true_eq]
      omega
    show [] = lastOutcomes config.windowSize (List.map _ (List.filter _ _))
    rw [become_epoch_of_name_ne (by simp [hstate, CircuitState.name]), hnone]
    simp [lastOutcomes]

lemma Windowed.step (h : Windowed config w) (hd : Disciplined w)
    (hsize : 0 < config.windowSize) (hmin : 0 < config.minimumRequests) :
    Windowed config (w.step config action) := by
  cases action with
  | acquire now => exact h.acquire now
  | resolve index failed now =>
    cases hget : w.live[index]? with
    | none => simpa [step, hget] using h
    | some held => exact h.resolve hd hsize hmin hget failed now
  | drop index => exact h.drop index
  | inspect now => exact h.refresh now

lemma windowed_after (hsize : 0 < config.windowSize) (hmin : 0 < config.minimumRequests)
    (actions : List CircuitAction)
    (hfew : (after config actions).generations < 2 ^ 64) :
    Windowed config (.after config actions) := by
  have hboth := after_induction
    (P := fun w => Disciplined w ∧ Windowed config w) ⟨disciplined_new, windowed_new hmin⟩
    (fun w action h hfew => ⟨h.1.step hfew, h.2.step h.1 hsize hmin⟩) actions hfew
  exact hboth.2

/-! ## When a circuit opens -/

/-- The condition under which a window opens the circuit. -/
def Opens (config : CircuitBreakerConfig) (window : List Bool) : Prop :=
  config.minimumRequests ≤ window.length ∧
    window.length * config.failureRatePercent ≤ window.countP (fun failed => failed) * 100

lemma shouldOpen_iff {window : List Bool} : shouldOpen window config = true ↔
    Opens config window := by
  unfold shouldOpen Opens
  by_cases hfew : window.length < config.minimumRequests
  · rw [if_pos hfew]
    simp only [Bool.false_eq_true, false_iff]
    omega
  · rw [if_neg hfew]
    simp only [decide_eq_true_eq]
    omega

lemma resolve_ne_closed_iff (h : Windowed config w) (hd : Disciplined w)
    (hsize : 0 < config.windowSize) (hstate : w.data.state = .closed)
    (hget : w.live[index]? = some held) :
    (w.data.resolve config held.attempt failed now).state ≠ .closed ↔ held.epoch = w.epoch ∧
      Opens config (lastOutcomes config.windowSize (w.currentOutcomes ++ [failed])) := by
  have hmem := mem_of_getElem? hget
  have hcases := resolve_cases config w.data held.attempt failed now
  rw [← pushOutcome_lastOutcomes hsize, ← h.window hstate, ← shouldOpen_iff]
  generalize w.data.resolve config held.attempt failed now = data at hcases ⊢
  cases hcases with
  | ignored hstale =>
    simp only [hstate, ne_eq, not_true_eq_false, false_iff, not_and]
    intro heq
    obtain ⟨hgeneration, haccepts⟩ := hd.current held hmem heq
    rw [hstale hgeneration.symm] at haccepts
    simp at haccepts
  | counted hgeneration hkind _ hkeeps => simp [hstate, hkeeps]
  | opened hgeneration hkind _ hopens =>
    have hcurrent := hd.epoch_eq_of_generation_eq hget hgeneration
    simp [CircuitData.openCircuit, hcurrent, hopens]
  | reopened _ _ hother | recovered _ _ hother => simp [hstate] at hother

/-- A closed circuit leaves that state by a resolution whose attempt counts, and whose window
opens it. -/
theorem step_ne_closed_iff (h : Windowed config w) (hd : Disciplined w)
    (hsize : 0 < config.windowSize) (hstate : w.data.state = .closed) :
    (w.step config action).data.state ≠ .closed ↔
      ∃ index held failed now, action = .resolve index failed now ∧
        w.live[index]? = some held ∧ held.epoch = w.epoch ∧
        Opens config (lastOutcomes config.windowSize (w.currentOutcomes ++ [failed])) := by
  have hrefreshed : ∀ now, w.data.refreshOpenState now = w.data := by
    intro now
    simp [CircuitData.refreshOpenState, hstate]
  cases action with
  | acquire now =>
    simp [step, CircuitData.tryAcquireAt, hrefreshed, hstate, become]
  | inspect now => simp [step, hrefreshed, hstate, become]
  | drop index =>
    have hcancel : ∀ attempt, w.data.cancel attempt = w.data := by
      intro attempt
      simp [CircuitData.cancel, hstate]
    simp only [step]
    split <;> simp [hcancel, hstate, become]
  | resolve index failed now =>
    cases hget : w.live[index]? with
    | none =>
      simp only [step, hget, hstate]
      simp only [ne_eq, not_true_eq_false, CircuitAction.resolve.injEq, false_iff]
      rintro ⟨_, held, _, _, ⟨rfl, -⟩, hsome, -⟩
      simp [hget] at hsome
    | some held =>
      have hdata : (w.step config (.resolve index failed now)).data =
          w.data.resolve config held.attempt failed now := by
        simp [step, hget, become]
      rw [hdata, resolve_ne_closed_iff h hd hsize hstate hget]
      constructor
      · rintro ⟨hcurrent, hopens⟩
        exact ⟨index, held, failed, now, rfl, hget, hcurrent, hopens⟩
      · rintro ⟨_, held', _, _, ⟨⟩, hget', hcurrent, hopens⟩
        obtain rfl := Option.some.inj (hget.symm.trans hget')
        exact ⟨hcurrent, hopens⟩

/-- In every run of a valid configuration whose generation does not wrap, at every moment at
which the circuit is closed: its window is the end, of at most `windowSize` outcomes, of the list
of outcomes of the attempts that were granted since it was closed; this window does not open it;
and the next step opens it exactly if it reports the outcome of such an attempt and the window
with that outcome does. -/
theorem circuit_window_correct (config : CircuitBreakerConfig)
    (hvalid : config.validate = .ok ()) (actions : List CircuitAction)
    (hfew : (after config actions).generations < 2 ^ 64) :
    let w := after config actions
    w.data.state = .closed →
      w.data.outcomes = lastOutcomes config.windowSize w.currentOutcomes ∧
      ¬ Opens config w.data.outcomes ∧
      ∀ action, (w.step config action).data.state ≠ .closed ↔
        ∃ index held failed now, action = .resolve index failed now ∧
          w.live[index]? = some held ∧ held.epoch = w.epoch ∧
          Opens config (lastOutcomes config.windowSize (w.currentOutcomes ++ [failed])) := by
  intro w hstate
  obtain ⟨hsize, hmin⟩ : 0 < config.windowSize ∧ 0 < config.minimumRequests := by
    obtain ⟨_, hwindow, hrest⟩ := of_bind hvalid
    obtain ⟨_, hrequests, -⟩ := of_bind hrest
    have hwindow' := of_require hwindow
    have hrequests' := of_require hrequests
    simp only [Bool.and_eq_true, decide_eq_true_eq] at hwindow' hrequests'
    omega
  have hd : Disciplined w := disciplined_after actions hfew
  have hw : Windowed config w := windowed_after hsize hmin actions hfew
  refine ⟨hw.window hstate, ?_, fun action => step_ne_closed_iff hw hd hsize hstate⟩
  rw [← shouldOpen_iff, hw.keeps hstate]
  simp

/-- Two of the last three attempts fail: the window of two is full of failures. -/
def slidingWindow : List CircuitAction :=
  [.acquire 0, .acquire 0, .acquire 0, .resolve 0 false 10, .resolve 0 true 20]

theorem circuit_window_correct_slidingWindow : let config : CircuitBreakerConfig :=
      { windowSize := 2, minimumRequests := 2, failureRatePercent := 100 }
    let w := after config slidingWindow
    w.data.state = .closed ∧ w.data.outcomes = [false, true] ∧
      (w.step config (.resolve 0 true 30)).data.state ≠ .closed := by
  let config : CircuitBreakerConfig :=
    { windowSize := 2, minimumRequests := 2, failureRatePercent := 100 }
  have hwindow := circuit_window_correct config rfl slidingWindow (by decide) (by decide)
  refine ⟨by decide, by decide, (hwindow.2.2 _).mpr ?_⟩
  exact ⟨0, ⟨⟨0, .closed⟩, 0⟩, true, 30, rfl, by decide, by decide, by decide, by decide⟩

end InferLab.Gateway
