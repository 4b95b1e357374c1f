import InferLab.Gateway.CircuitBreaker
import Mathlib.Data.List.Induction
import Mathlib.Data.List.Perm.Basic
import Mathlib.Tactic.Common

/-!
# The history of a circuit

A circuit together with the attempts that its callers hold, and with what happened so far: how
often it has moved between closed, open and half-open, and the outcomes in the order in which
they were reported. The circuit itself knows only its generation. `Disciplined` ties the two
together: as long as the generation has not wrapped, an attempt has the circuit's generation
exactly if the circuit has not moved since the attempt was granted.
-/

namespace InferLab.Gateway

open List

/-! ## Runs -/

/-- An attempt, and how often the circuit had moved when it was granted. -/
structure HeldAttempt where
  attempt : CircuitAttempt
  epoch : ℕ
deriving Repr, DecidableEq

/-- A circuit and the attempts it let through. -/
structure CircuitHistory where
  data : CircuitData
  /-- How often the circuit has moved between closed, open and half-open. -/
  epoch : ℕ
  /-- The attempts that are neither resolved nor dropped. -/
  live : List HeldAttempt
  /-- For every resolution, when its attempt was granted and whether it failed. -/
  resolved : List (ℕ × Bool)
deriving Repr, DecidableEq

def CircuitHistory.new : CircuitHistory :=
  { data := .new, epoch := 0, live := [], resolved := [] }

/-- What happens to a circuit. -/
inductive CircuitAction
  | acquire (now : ℕ)
  /-- `success` or `failure` of the attempt at this place of the live ones. -/
  | resolve (index : ℕ) (failed : Bool) (now : ℕ)
  | drop (index : ℕ)
  /-- `snapshot`, which refreshes an open circuit. -/
  | inspect (now : ℕ)

namespace CircuitHistory

variable (config : CircuitBreakerConfig) (w : CircuitHistory)

/-- The circuit changes to `data`. -/
def become (data : CircuitData) : CircuitHistory :=
  { w with
    data
    epoch := if data.state.name = w.data.state.name then w.epoch else w.epoch + 1 }

def step : CircuitAction → CircuitHistory
  | .acquire now =>
    match w.data.tryAcquireAt now with
    | (none, data) => w.become data
    | (some attempt, data) =>
      let w := w.become data
      { w with live := w.live ++ [⟨attempt, w.epoch⟩] }
  | .resolve index failed now =>
    match w.live[index]? with
    | none => w
    | some held =>
      { w.become (w.data.resolve config held.attempt failed now) with
        live := w.live.eraseIdx index
        resolved := w.resolved ++ [(held.epoch, failed)] }
  | .drop index =>
    match w.live[index]? with
    | none => w
    | some held =>
      { w.become (w.data.cancel held.attempt) with live := w.live.eraseIdx index }
  | .inspect now => w.become (w.data.refreshOpenState now)

def after (actions : List CircuitAction) : CircuitHistory := actions.foldl (step config) .new

/-- The outcomes of the attempts that were granted since the circuit last moved, in order. -/
def currentOutcomes : List Bool :=
  (w.resolved.filter (fun entry => entry.1 = w.epoch)).map (·.2)

/-- How many generations there have been since the first one. -/
def generations : ℕ := w.data.openedTotal + w.data.recoveriesTotal

end CircuitHistory

/-! ## What a step does to the circuit -/

variable {config : CircuitBreakerConfig} {data : CircuitData} {attempt : CircuitAttempt}
  {failed : Bool} {now : ℕ} {w : CircuitHistory}

/-- The ways in which a resolution is taken. -/
inductive Resolves (config : CircuitBreakerConfig) (data : CircuitData)
    (attempt : CircuitAttempt) (failed : Bool) (now : ℕ) : CircuitData → Prop where
  | ignored (hstale : data.generation = attempt.generation →
        attempt.kind.accepts data.state = false) :
      Resolves config data attempt failed now data
  | counted (hgeneration : data.generation = attempt.generation) (hkind : attempt.kind = .closed)
      (hstate : data.state = .closed)
      (hkeeps : shouldOpen (pushOutcome config.windowSize data.outcomes failed) config = false) :
      Resolves config data attempt failed now { data.count failed with
        outcomes := pushOutcome config.windowSize data.outcomes failed }
  | opened (hgeneration : data.generation = attempt.generation) (hkind : attempt.kind = .closed)
      (hstate : data.state = .closed)
      (hopens : shouldOpen (pushOutcome config.windowSize data.outcomes failed) config = true) :
      Resolves config data attempt failed now ({ data.count failed with
        outcomes := pushOutcome config.windowSize data.outcomes failed }.openCircuit now
          config.openDuration)
  | reopened {probeInFlight : Bool} (hgeneration : data.generation = attempt.generation)
      (hkind : attempt.kind = .halfOpen) (hstate : data.state = .halfOpen probeInFlight)
      (hfailed : failed = true) :
      Resolves config data attempt failed now ({ data.count failed with
        outcomes := [true] }.openCircuit now config.openDuration)
  | recovered {probeInFlight : Bool} (hgeneration : data.generation = attempt.generation)
      (hkind : attempt.kind = .halfOpen) (hstate : data.state = .halfOpen probeInFlight)
      (hfailed : failed = false) :
      Resolves config data attempt failed now { data.count failed with
        generation := (data.count failed).nextGeneration
        state := .closed
        outcomes := []
        recoveriesTotal := data.recoveriesTotal + 1 }

@[simp]
lemma count_outcomes : (data.count failed).outcomes = data.outcomes := by
  cases failed <;> rfl

@[simp]
lemma count_state : (data.count failed).state = data.state := by
  cases failed <;> rfl

@[simp]
lemma count_generation : (data.count failed).generation = data.generation := by
  cases failed <;> rfl

@[simp]
lemma count_openedTotal : (data.count failed).openedTotal = data.openedTotal := by
  cases failed <;> rfl

@[simp]
lemma count_recoveriesTotal : (data.count failed).recoveriesTotal = data.recoveriesTotal := by
  cases failed <;> rfl

lemma resolve_cases (config : CircuitBreakerConfig) (data : CircuitData)
    (attempt : CircuitAttempt) (failed : Bool) (now : ℕ) :
    Resolves config data attempt failed now (data.resolve config attempt failed now) := by
  unfold CircuitData.resolve
  by_cases hgeneration : data.generation = attempt.generation
  · rw [if_neg (not_not.mpr hgeneration)]
    by_cases haccepts : attempt.kind.accepts data.state = false
    · rw [if_pos haccepts]
      exact .ignored fun _ => haccepts
    rw [if_neg haccepts]
    cases hkind : attempt.kind with
    | closed =>
      have hstate : data.state = .closed := by
        cases hstate : data.state with
        | closed => rfl
        | _ => simp [hkind, hstate, AttemptKind.accepts] at haccepts
      simp only [count_outcomes]
      cases hopens : shouldOpen (pushOutcome config.windowSize data.outcomes failed) config with
      | true => exact .opened hgeneration hkind hstate hopens
      | false => exact .counted hgeneration hkind hstate hopens
    | halfOpen =>
      obtain ⟨probeInFlight, hstate⟩ : ∃ probeInFlight, data.state = .halfOpen probeInFlight := by
        cases hstate : data.state with
        | halfOpen probeInFlight => exact ⟨probeInFlight, rfl⟩
        | _ => simp [hkind, hstate, AttemptKind.accepts] at haccepts
      cases failed with
      | true => exact .reopened hgeneration hkind hstate rfl
      | false => exact .recovered hgeneration hkind hstate rfl
  · rw [if_pos hgeneration]
    exact .ignored fun heq => absurd heq hgeneration

/-- What an acquisition finds in a circuit that has been refreshed. -/
inductive Acquires (data : CircuitData) : Option CircuitAttempt × CircuitData → Prop
  | granted (hstate : data.state = .closed) :
      Acquires data (some ⟨data.generation, .closed⟩, data)
  | refused (hstate : data.state = .halfOpen true ∨ data.state.name = .opened) :
      Acquires data (none, { data with rejectedTotal := data.rejectedTotal + 1 })
  | probed (hstate : data.state = .halfOpen false) :
      Acquires data (some ⟨data.generation, .halfOpen⟩, { data with
        state := .halfOpen true
        halfOpenProbesTotal := data.halfOpenProbesTotal + 1 })

lemma tryAcquireAt_cases (data : CircuitData) (now : ℕ) :
    Acquires (data.refreshOpenState now) (data.tryAcquireAt now) := by
  unfold CircuitData.tryAcquireAt
  generalize data.refreshOpenState now = data
  dsimp only
  split
  · rename_i hstate
    exact .granted hstate
  · rename_i hstate
    exact .refused (.inr (by rw [hstate]; rfl))
  · rename_i hstate
    exact .refused (.inl hstate)
  · rename_i hstate
    exact .probed hstate

/-- Which attempts a state accepts does not depend on what it carries. -/
theorem accepts_congr {kind : AttemptKind} {state state' : CircuitState}
    (h : state'.name = state.name) : kind.accepts state' = kind.accepts state := by
  cases kind <;> cases state <;> cases state' <;> first | rfl | simp [CircuitState.name] at h

/-! ## Generations and epochs -/

/-- What the generations say about the attempts that are held. -/
structure Disciplined (w : CircuitHistory) : Prop where
  generation : w.data.generation = w.generations
  epoch_le : ∀ held ∈ w.live, held.epoch ≤ w.epoch
  stale : ∀ held ∈ w.live, held.epoch < w.epoch →
    held.attempt.generation < w.data.generation
  current : ∀ held ∈ w.live, held.epoch = w.epoch →
    held.attempt.generation = w.data.generation ∧
      held.attempt.kind.accepts w.data.state = true
  probe_current : ∀ held ∈ w.live, held.attempt.kind = .halfOpen → held.epoch = w.epoch
  probes : w.live.countP (fun held => held.attempt.kind = .halfOpen) =
    w.data.state.probeInFlight.toNat

lemma disciplined_new : Disciplined .new := by
  constructor <;> simp [CircuitHistory.new, CircuitData.new, CircuitHistory.generations,
    CircuitState.probeInFlight]

namespace Disciplined

variable {w' : CircuitHistory} {held : HeldAttempt}

lemma generation_le (h : Disciplined w) (hmem : held ∈ w.live) :
    held.attempt.generation ≤ w.data.generation := by
  rcases Nat.lt_or_eq_of_le (h.epoch_le held hmem) with hlt | heq
  · exact Nat.le_of_lt (h.stale held hmem hlt)
  · exact Nat.le_of_eq (h.current held hmem heq).1

/-- A circuit that moves leaves no attempt with its generation. -/
theorem move (h : Disciplined w) (hepoch : w'.epoch = w.epoch + 1)
    (hgeneration : w'.data.generation = w'.generations)
    (hlive : ∀ held ∈ w'.live, held ∈ w.live ∧
      held.attempt.generation < w'.data.generation ∧ held.attempt.kind = .closed)
    (hprobe : w'.data.state.probeInFlight = false) : Disciplined w' := by
  have hle : ∀ held ∈ w'.live, held.epoch ≤ w.epoch :=
    fun held hmem => h.epoch_le held (hlive held hmem).1
  constructor
  case generation => exact hgeneration
  case epoch_le =>
    intro held hmem
    have := hle held hmem
    omega
  case stale => exact fun held hmem _ => (hlive held hmem).2.1
  case current =>
    intro held hmem heq
    have := hle held hmem
    omega
  case probe_current =>
    intro held hmem hkind
    rw [(hlive held hmem).2.2] at hkind
    simp at hkind
  case probes =>
    rw [hprobe, countP_eq_zero.mpr]
    · rfl
    · intro held hmem
      simp [(hlive held hmem).2.2]

/-- A circuit that stays where it is keeps what is said about the attempts it is left with, and
may have granted others. -/
theorem stay (h : Disciplined w) (hepoch : w'.epoch = w.epoch)
    (hgeneration : w'.data.generation = w.data.generation)
    (hcount : w'.generations = w.generations)
    (hname : w'.data.state.name = w.data.state.name)
    (hlive : ∀ held ∈ w'.live, held ∈ w.live ∨ held.epoch = w.epoch ∧
      held.attempt.generation = w.data.generation ∧
      held.attempt.kind.accepts w.data.state = true)
    (hprobes : w'.live.countP (fun held => held.attempt.kind = .halfOpen) =
      w'.data.state.probeInFlight.toNat) : Disciplined w' := by
  constructor
  case generation => rw [hgeneration, hcount, h.generation]
  case epoch_le =>
    intro held hmem
    rcases hlive held hmem with hold | ⟨heq, -⟩
    · exact hepoch ▸ h.epoch_le held hold
    · omega
  case stale =>
    intro held hmem hlt
    rcases hlive held hmem with hold | ⟨heq, -⟩
    · exact hgeneration ▸ h.stale held hold (hepoch ▸ hlt)
    · omega
  case current =>
    intro held hmem heq
    rw [hgeneration, accepts_congr hname]
    rcases hlive held hmem with hold | ⟨-, hnew⟩
    · exact h.current held hold (hepoch ▸ heq)
    · exact hnew
  case probe_current =>
    intro held hmem hkind
    rcases hlive held hmem with hold | ⟨heq, -⟩
    · exact hepoch ▸ h.probe_current held hold hkind
    · exact hepoch ▸ heq
  case probes => exact hprobes

end Disciplined

/-! ## Every step -/

variable {action : CircuitAction} {held : HeldAttempt} {index : ℕ}

lemma become_epoch_of_name_eq {data : CircuitData} (h : data.state.name = w.data.state.name) :
    (w.become data).epoch = w.epoch := by
  simp [CircuitHistory.become, h]

lemma become_epoch_of_name_ne {data : CircuitData} (h : data.state.name ≠ w.data.state.name) :
    (w.become data).epoch = w.epoch + 1 := by
  simp [CircuitHistory.become, h]

/-- An open circuit has no attempts of its generation, so refreshing it makes none stale. -/
theorem Disciplined.refresh (h : Disciplined w) (now : ℕ) :
    Disciplined (w.become (w.data.refreshOpenState now)) := by
  have hsame : Disciplined (w.become w.data) := by
    have heq : w.become w.data = w := by simp [CircuitHistory.become]
    rwa [heq]
  unfold CircuitData.refreshOpenState
  split
  · rename_i untilInstant hstate
    split
    · have hprobes : w.live.countP (fun held => held.attempt.kind = .halfOpen) = 0 := by
        rw [h.probes, hstate]
        rfl
      refine h.move (become_epoch_of_name_ne (by simp [hstate, CircuitState.name]))
        h.generation ?_ rfl
      intro held hmem
      refine ⟨hmem, ?_, ?_⟩
      · apply h.stale held hmem
        have hle := h.epoch_le held hmem
        have hne : held.epoch ≠ w.epoch := by
          intro heq
          have haccepts := (h.current held hmem heq).2
          rw [hstate] at haccepts
          cases hkind : held.attempt.kind <;> simp [hkind, AttemptKind.accepts] at haccepts
        omega
      · have := countP_eq_zero.mp hprobes held hmem
        cases hkind : held.attempt.kind with
        | closed => rfl
        | halfOpen => simp [hkind] at this
    · exact hsame
  · exact hsame

lemma Disciplined.acquire (h : Disciplined w) (config : CircuitBreakerConfig) (now : ℕ) :
    Disciplined (w.step config (.acquire now)) := by
  have hrefreshed := h.refresh now
  have hcases := tryAcquireAt_cases w.data now
  simp only [CircuitHistory.step]
  generalize w.data.tryAcquireAt now = result at hcases ⊢
  generalize w.data.refreshOpenState now = data at hrefreshed hcases
  cases hcases with
  | granted hstate =>
    refine hrefreshed.stay rfl rfl rfl rfl ?_ ?_
    · intro held hmem
      rcases mem_append.mp hmem with hold | hnew
      · exact .inl hold
      · obtain rfl := mem_singleton.mp hnew
        refine .inr ⟨rfl, rfl, ?_⟩
        show AttemptKind.closed.accepts data.state = true
        rw [hstate]
        rfl
    · have hprobes := hrefreshed.probes
      simp only [countP_append] at hprobes ⊢
      simpa using hprobes
  | refused => exact hrefreshed.stay rfl rfl rfl rfl (fun held hmem => .inl hmem) hrefreshed.probes
  | probed hstate =>
    have hname : CircuitStateName.halfOpen = data.state.name := by
      rw [hstate]
      rfl
    refine hrefreshed.stay ?_ rfl rfl hname ?_ ?_
    · show (if _ = _ then _ else _) = if _ = _ then _ else _
      rw [← hname]
      rfl
    · intro held hmem
      rcases mem_append.mp hmem with hold | hnew
      · exact .inl hold
      · obtain rfl := mem_singleton.mp hnew
        refine .inr ⟨?_, rfl, ?_⟩
        · show (if _ = _ then _ else _) = if _ = _ then _ else _
          rw [← hname]
          rfl
        · show AttemptKind.halfOpen.accepts data.state = true
          rw [hstate]
          rfl
    · have hprobes : w.live.countP (fun held => held.attempt.kind = .halfOpen) = 0 := by
        have := hrefreshed.probes
        simpa [CircuitHistory.become, hstate, CircuitState.probeInFlight] using this
      show (w.live ++ _).countP _ = 1
      rw [countP_append, hprobes]
      rfl

/-- An attempt that is given up takes its part of a count with it. -/
theorem countP_eraseIdx_add {α : Type} {l : List α} {a : α} (p : α → Bool)
    (hget : l[index]? = some a) : (l.eraseIdx index).countP p + (p a).toNat = l.countP p := by
  obtain ⟨hlt, rfl⟩ := List.getElem?_eq_some_iff.mp hget
  have hperm := (getElem_cons_eraseIdx_perm hlt).countP_eq p
  rw [countP_cons] at hperm
  rw [← hperm]
  cases p l[index] <;> rfl

namespace Disciplined

variable (h : Disciplined w) (hget : w.live[index]? = some held)
include h hget

/-- The attempts that are left when a circuit moves to a new generation are stale, and no probe
is among them. -/
theorem generation_lt_of_mem_eraseIdx {other : HeldAttempt} {generation : ℕ}
    (hprobe : held.attempt.kind = .halfOpen ∨ w.data.state.probeInFlight = false)
    (hgeneration : generation = w.data.generation + 1) (hmem : other ∈ w.live.eraseIdx index) :
    other ∈ w.live ∧ other.attempt.generation < generation ∧ other.attempt.kind = .closed := by
  have hold := mem_of_mem_eraseIdx hmem
  have hle := h.generation_le hold
  refine ⟨hold, by omega, ?_⟩
  have hcount := countP_eraseIdx_add (fun held => held.attempt.kind = .halfOpen) hget
  rw [h.probes] at hcount
  have hnone : (w.live.eraseIdx index).countP (fun held => held.attempt.kind = .halfOpen) = 0 := by
    rcases hprobe with hkind | hflag
    · simp only [hkind, decide_true, Bool.toNat_true] at hcount
      have := Bool.toNat_le w.data.state.probeInFlight
      omega
    · rw [hflag] at hcount
      simp only [Bool.toNat_false] at hcount
      omega
  have hother := countP_eq_zero.mp hnone other hmem
  cases hkind : other.attempt.kind with
  | closed => rfl
  | halfOpen => simp [hkind] at hother

lemma epoch_eq_of_generation_eq (heq : w.data.generation = held.attempt.generation) :
    held.epoch = w.epoch := by
  have hmem := mem_of_getElem? hget
  rcases Nat.lt_or_eq_of_le (h.epoch_le held hmem) with hlt | hcurrent
  · have := h.stale held hmem hlt
    omega
  · exact hcurrent

/-- A resolution that moves the circuit begins a generation. -/
theorem renew {data : CircuitData} (resolved : List (ℕ × Bool))
    (hprobe : held.attempt.kind = .halfOpen ∨ w.data.state.probeInFlight = false)
    (hgeneration : data.generation = w.data.nextGeneration)
    (hcount : data.openedTotal + data.recoveriesTotal = w.generations + 1)
    (hfew : data.openedTotal + data.recoveriesTotal < 2 ^ 64)
    (hname : data.state.name ≠ w.data.state.name)
    (hflag : data.state.probeInFlight = false) :
    Disciplined { w.become data with live := w.live.eraseIdx index, resolved } := by
  have hnext : data.generation = w.data.generation + 1 := by
    have := h.generation
    rw [hgeneration, CircuitData.nextGeneration]
    omega
  refine h.move (become_epoch_of_name_ne hname) ?_ ?_ hflag
  · show data.generation = data.openedTotal + data.recoveriesTotal
    rw [hnext, hcount, h.generation]
  · intro other hother
    exact h.generation_lt_of_mem_eraseIdx hget hprobe hnext hother

lemma resolve (config : CircuitBreakerConfig) (failed : Bool) (now : ℕ)
    (hfew : (w.step config (.resolve index failed now)).generations < 2 ^ 64) :
    Disciplined (w.step config (.resolve index failed now)) := by
  have hmem := mem_of_getElem? hget
  have hold : ∀ other ∈ w.live.eraseIdx index, other ∈ w.live :=
    fun other hother => mem_of_mem_eraseIdx hother
  have hcount := countP_eraseIdx_add (fun held => held.attempt.kind = .halfOpen) hget
  have hgeneration := h.generation
  have hcases := resolve_cases config w.data held.attempt failed now
  simp only [CircuitHistory.step, hget] at hfew ⊢
  generalize w.data.resolve config held.attempt failed now = data at hcases hfew ⊢
  cases hcases with
  | ignored hstale =>
    -- the probe of a half-open circuit would be accepted
    have hclosed : held.attempt.kind = .closed := by
      cases hkind : held.attempt.kind with
      | closed => rfl
      | halfOpen =>
        obtain ⟨heq, haccepts⟩ := h.current held hmem (h.probe_current held hmem hkind)
        rw [hstale heq.symm] at haccepts
        simp at haccepts
    refine h.stay (become_epoch_of_name_eq rfl) rfl rfl rfl
      (fun other hother => .inl (hold other hother)) ?_
    simpa [CircuitHistory.become, hclosed, h.probes] using hcount
  | counted heq hkind hstate =>
    refine h.stay (become_epoch_of_name_eq (by simp)) count_generation ?_
      (by simp [CircuitHistory.become]) (fun other hother => .inl (hold other hother)) ?_
    · simp [CircuitHistory.generations, CircuitHistory.become]
    · simpa [CircuitHistory.become, hkind, h.probes] using hcount
  | opened heq hkind hstate =>
    refine h.renew hget _ (.inr (by rw [hstate]; rfl)) ?_ ?_ hfew ?_ rfl
    · simp [CircuitData.openCircuit, CircuitData.nextGeneration]
    · simp [CircuitData.openCircuit, CircuitHistory.generations]
      omega
    · simp [CircuitData.openCircuit, hstate, CircuitState.name]
  | reopened heq hkind hstate =>
    refine h.renew hget _ (.inl hkind) ?_ ?_ hfew ?_ rfl
    · simp [CircuitData.openCircuit, CircuitData.nextGeneration]
    · simp [CircuitData.openCircuit, CircuitHistory.generations]
      omega
    · simp [CircuitData.openCircuit, hstate, CircuitState.name]
  | recovered heq hkind hstate =>
    refine h.renew hget _ (.inl hkind) ?_ ?_ hfew ?_ rfl
    · simp [CircuitData.nextGeneration]
    · simp [CircuitHistory.generations]
      omega
    · simp [hstate, CircuitState.name]

lemma drop (config : CircuitBreakerConfig) : Disciplined (w.step config (.drop index)) := by
  have hmem := mem_of_getElem? hget
  have hold : ∀ other ∈ w.live.eraseIdx index, other ∈ w.live :=
    fun other hother => mem_of_mem_eraseIdx hother
  have hcount := countP_eraseIdx_add (fun held => held.attempt.kind = .halfOpen) hget
  rw [h.probes] at hcount
  simp only [CircuitHistory.step, hget]
  cases hkind : held.attempt.kind with
  | closed =>
    have hcancel : w.data.cancel held.attempt = w.data := by simp [CircuitData.cancel, hkind]
    rw [hcancel]
    refine h.stay (become_epoch_of_name_eq rfl) rfl rfl rfl
      (fun other hother => .inl (hold other hother)) ?_
    simpa [CircuitHistory.become, hkind] using hcount
  | halfOpen =>
    obtain ⟨heq, haccepts⟩ := h.current held hmem (h.probe_current held hmem hkind)
    obtain ⟨probeInFlight, hstate⟩ : ∃ probeInFlight, w.data.state = .halfOpen probeInFlight := by
      cases hstate : w.data.state with
      | halfOpen probeInFlight => exact ⟨probeInFlight, rfl⟩
      | _ => simp [hkind, hstate, AttemptKind.accepts] at haccepts
    have hcancel : w.data.cancel held.attempt = { w.data with state := .halfOpen false } := by
      simp [CircuitData.cancel, hkind, hstate, heq]
    rw [hcancel]
    have hname : (CircuitState.halfOpen false).name = w.data.state.name := by
      rw [hstate]
      rfl
    refine h.stay (become_epoch_of_name_eq hname) rfl rfl hname
      (fun other hother => .inl (hold other hother)) ?_
    -- the probe was the only one
    simp only [hkind, decide_true, Bool.toNat_true] at hcount
    have := Bool.toNat_le w.data.state.probeInFlight
    show (w.live.eraseIdx index).countP _ = 0
    omega

end Disciplined

lemma resolve_generations_le : data.openedTotal + data.recoveriesTotal ≤
    (data.resolve config attempt failed now).openedTotal +
      (data.resolve config attempt failed now).recoveriesTotal := by
  have hcases := resolve_cases config data attempt failed now
  generalize data.resolve config attempt failed now = data' at hcases ⊢
  cases hcases <;> simp [CircuitData.openCircuit]

lemma generations_le_step (config : CircuitBreakerConfig) (w : CircuitHistory)
    (action : CircuitAction) : w.generations ≤ (w.step config action).generations := by
  cases action with
  | acquire now =>
    have hrefreshed : w.generations = (w.become (w.data.refreshOpenState now)).generations := by
      unfold CircuitData.refreshOpenState
      split
      · split <;> rfl
      · rfl
    have hcases := tryAcquireAt_cases w.data now
    simp only [CircuitHistory.step]
    rw [hrefreshed]
    generalize w.data.tryAcquireAt now = result at hcases ⊢
    cases hcases <;> exact Nat.le_refl _
  | resolve index failed now =>
    simp only [CircuitHistory.step]
    split
    · exact Nat.le_refl _
    · exact resolve_generations_le
  | drop index =>
    simp only [CircuitHistory.step]
    split
    · exact Nat.le_refl _
    · unfold CircuitData.cancel
      split
      · split <;> exact Nat.le_refl _
      · exact Nat.le_refl _
  | inspect now =>
    simp only [CircuitHistory.step, CircuitData.refreshOpenState]
    split
    · split <;> exact Nat.le_refl _
    · exact Nat.le_refl _

lemma Disciplined.step (h : Disciplined w)
    (hfew : (w.step config action).generations < 2 ^ 64) : Disciplined (w.step config action) := by
  cases action with
  | acquire now => exact h.acquire config now
  | resolve index failed now =>
    cases hget : w.live[index]? with
    | none => simpa [CircuitHistory.step, hget] using h
    | some held => exact h.resolve hget config failed now hfew
  | drop index =>
    cases hget : w.live[index]? with
    | none => simpa [CircuitHistory.step, hget] using h
    | some held => exact h.drop hget config
  | inspect now => exact h.refresh now

namespace CircuitHistory

lemma after_concat (config : CircuitBreakerConfig) (actions : List CircuitAction)
    (action : CircuitAction) :
    after config (actions ++ [action]) = (after config actions).step config action := by
  simp [after]

/-- What a step keeps as long as the generation does not wrap holds at the end of every run. -/
theorem after_induction {P : CircuitHistory → Prop} (hnew : P .new)
    (hstep : ∀ w action, P w → (w.step config action).generations < 2 ^ 64 →
      P (w.step config action)) (actions : List CircuitAction)
    (hfew : (after config actions).generations < 2 ^ 64) : P (after config actions) := by
  induction actions using List.reverseRecOn with
  | nil => exact hnew
  | append_singleton actions action ih =>
    rw [after_concat] at hfew ⊢
    have hle := generations_le_step config (after config actions) action
    exact hstep _ _ (ih (by omega)) hfew

end CircuitHistory

lemma disciplined_after (actions : List CircuitAction)
    (hfew : (CircuitHistory.after config actions).generations < 2 ^ 64) :
    Disciplined (.after config actions) :=
  CircuitHistory.after_induction disciplined_new (fun _ _ h hfew => h.step hfew) actions hfew

/-! ## The probe -/

/-- An attempt that was granted before the circuit last moved has no effect any more. -/
theorem Disciplined.stale_ignored (h : Disciplined w) (hmem : held ∈ w.live)
    (hstale : held.epoch < w.epoch) :
    w.data.resolve config held.attempt failed now = w.data ∧
      w.data.cancel held.attempt = w.data := by
  have hlt := h.stale held hmem hstale
  have hne : w.data.generation ≠ held.attempt.generation := by omega
  constructor
  · rw [CircuitData.resolve, if_pos hne]
  · unfold CircuitData.cancel
    split
    · rw [if_neg hne]
    · rfl

lemma refreshOpenState_eq_opened {untilInstant : ℕ}
    (h : (data.refreshOpenState now).state = .opened untilInstant) :
    data.state = .opened untilInstant := by
  unfold CircuitData.refreshOpenState at h
  split at h
  · split at h
    · simp at h
    · exact h
  · exact h

/-- A circuit opens when a resolution opens it, and the waiting time counts from then on. -/
theorem opened_of_step {untilInstant : ℕ}
    (h : (w.step config action).data.state = .opened untilInstant) :
    w.data.state = .opened untilInstant ∨
      ∃ index failed now, action = .resolve index failed now ∧
        untilInstant = now + config.openDuration := by
  cases action with
  | acquire now =>
    have hcases := tryAcquireAt_cases w.data now
    simp only [CircuitHistory.step] at h
    generalize w.data.tryAcquireAt now = result at hcases h
    cases hcases with
    | granted | refused => exact .inl (refreshOpenState_eq_opened h)
    | probed => simp [CircuitHistory.become] at h
  | resolve index failed now =>
    simp only [CircuitHistory.step] at h
    split at h
    · exact .inl h
    · rename_i held hget
      have hcases := resolve_cases config w.data held.attempt failed now
      generalize w.data.resolve config held.attempt failed now = data at hcases h
      cases hcases with
      | ignored => exact .inl h
      | counted => exact .inl (by simpa [CircuitHistory.become] using h)
      | opened | reopened =>
        refine .inr ⟨index, failed, now, rfl, ?_⟩
        simpa [CircuitHistory.become, CircuitData.openCircuit] using h.symm
      | recovered => simp [CircuitHistory.become] at h
  | drop index =>
    simp only [CircuitHistory.step] at h
    split at h
    · exact .inl h
    · simp only [CircuitHistory.become, CircuitData.cancel] at h
      split at h
      · split at h
        · simp at h
        · exact .inl h
      · exact .inl h
  | inspect now => exact .inl (refreshOpenState_eq_opened h)

/-- A probe that is dropped leaves room for the next one. -/
theorem Disciplined.acquire_of_drop (h : Disciplined w) (hget : w.live[index]? = some held)
    (hkind : held.attempt.kind = .halfOpen) :
    ((w.step config (.drop index)).data.tryAcquireAt now).1 =
      some ⟨w.data.generation, .halfOpen⟩ := by
  have hmem := mem_of_getElem? hget
  obtain ⟨heq, haccepts⟩ := h.current held hmem (h.probe_current held hmem hkind)
  cases hstate : w.data.state with
  | halfOpen probeInFlight =>
    simp [CircuitHistory.step, hget, CircuitHistory.become, CircuitData.cancel, hkind, hstate, heq,
      CircuitData.tryAcquireAt, CircuitData.refreshOpenState]
  | _ => simp [hkind, hstate, AttemptKind.accepts] at haccepts

/-- In every run whose generation does not wrap: an open circuit grants nothing before its time,
which counts from the resolution that opened it; at most one probe is held, the probe flag says
whether one is, and a dropped one leaves room for the next; an attempt that was granted before
the circuit last moved changes nothing, however it ends. -/
theorem circuit_probe_discipline (config : CircuitBreakerConfig) (actions : List CircuitAction)
    (hfew : (CircuitHistory.after config actions).generations < 2 ^ 64) :
    let w := CircuitHistory.after config actions
    (∀ untilInstant now, w.data.state = .opened untilInstant → now < untilInstant →
      (w.data.tryAcquireAt now).1 = none) ∧
    (∀ action untilInstant, (w.step config action).data.state = .opened untilInstant →
      w.data.state = .opened untilInstant ∨
        ∃ index failed now, action = .resolve index failed now ∧
          untilInstant = now + config.openDuration) ∧
    w.live.countP (fun held => held.attempt.kind = .halfOpen) ≤ 1 ∧
    (w.data.state.probeInFlight = true ↔
      ∃ held ∈ w.live, held.attempt.kind = .halfOpen) ∧
    (∀ (index : ℕ) held now, w.live[index]? = some held → held.attempt.kind = .halfOpen →
      ((w.step config (.drop index)).data.tryAcquireAt now).1 =
        some ⟨w.data.generation, .halfOpen⟩) ∧
    (∀ held ∈ w.live, held.epoch < w.epoch → ∀ failed now,
      w.data.resolve config held.attempt failed now = w.data ∧
        w.data.cancel held.attempt = w.data) := by
  intro w
  have h : Disciplined w := disciplined_after actions hfew
  refine ⟨?_, fun _ _ => opened_of_step, ?_, ?_, ?_, ?_⟩
  · intro untilInstant now hstate hlt
    simp [CircuitData.tryAcquireAt, CircuitData.refreshOpenState, hstate, Nat.not_le.mpr hlt]
  · rw [h.probes]
    exact Bool.toNat_le _
  · have hprobes := h.probes
    cases hflag : w.data.state.probeInFlight with
    | true =>
      rw [hflag] at hprobes
      have hpos : 0 < w.live.countP (fun held => held.attempt.kind = .halfOpen) := by
        rw [hprobes]
        decide
      simpa using countP_pos_iff.mp hpos
    | false =>
      rw [hflag] at hprobes
      have hnone := countP_eq_zero.mp hprobes
      simpa using hnone
  · exact fun index held now hget hkind => h.acquire_of_drop hget hkind
  · exact fun held hmem hstale failed now => h.stale_ignored hmem hstale

/-- Of two attempts one fails and opens the circuit, and a probe is granted five seconds later. -/
def lateAttempt : List CircuitAction :=
  [.acquire 0, .acquire 0, .resolve 0 true 0, .acquire 5000000000]

theorem circuit_probe_discipline_lateAttempt :
    let config : CircuitBreakerConfig := { windowSize := 1, minimumRequests := 1 }
    let w := CircuitHistory.after config lateAttempt
    w.data.state = .halfOpen true ∧ ∃ held ∈ w.live, held.epoch < w.epoch ∧
      ∀ failed now, w.data.resolve config held.attempt failed now = w.data := by
  have hdiscipline := circuit_probe_discipline { windowSize := 1, minimumRequests := 1 }
    lateAttempt (by decide)
  refine ⟨by decide, ⟨⟨0, .closed⟩, 0⟩, by decide, by decide, fun failed now => ?_⟩
  exact (hdiscipline.2.2.2.2.2 _ (by decide) (by decide) failed now).1

end InferLab.Gateway
