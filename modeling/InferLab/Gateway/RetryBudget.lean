import InferLab.Gateway.Admission

/-!
# Gateway: the retry budget

A retry takes a slot of the budget, which grows with the number of requests. The slot is returned
if the retry does not come about.
-/

namespace InferLab.Gateway

/-! ## What a request may still do -/

/-- One attempt for each turn of the loop, and turns as configured. -/
structure Budgeted (config : RequestConfig) (s : Shared) (r : Request) : Prop where
  attempts : r.attemptsStarted ≤ r.retriesUsed + r.point.attempted.toNat
  unstarted : r.point.hasStarted = false → r.attemptsStarted = 0 ∧ r.retriesUsed = 0
  retries : r.retriesUsed + r.point.retrying.toNat ≤ config.maxRetries
  allowed : r.point.allowance ≤
    retryAllowance config.retryBudgetPercent (s.counter .originalRequests)

variable {config : RequestConfig} {s s' : Shared} {r r' : Request}

lemma retryAllowance_mono {percent m n : ℕ} (h : m ≤ n) :
    retryAllowance percent m ≤ retryAllowance percent n := by
  unfold retryAllowance
  apply Nat.div_le_div_right
  have hmul : m * percent ≤ n * percent := Nat.mul_le_mul_right percent h
  omega

lemma Budgeted.mono (h : Budgeted config s r)
    (hle : s.counter .originalRequests ≤ s'.counter .originalRequests) : Budgeted config s' r :=
  ⟨h.attempts, h.unstarted, h.retries, h.allowed.trans (retryAllowance_mono hle)⟩

/-- The request goes to a point that is no further back. -/
theorem Budgeted.goes (h : Budgeted config s r) {pool : List ℕ} {point : Point}
    (hattempted : r.point.attempted ≤ point.attempted)
    (hstarted : r.point.hasStarted ≤ point.hasStarted)
    (hretrying : point.retrying ≤ r.point.retrying) (hallowed : point.allowance = 0) :
    Budgeted config s { r with pool := pool, point := point } where
  attempts := by
    have hattempts := h.attempts
    have hle : r.point.attempted.toNat ≤ point.attempted.toNat := Bool.toNat_le_toNat hattempted
    show r.attemptsStarted ≤ r.retriesUsed + point.attempted.toNat
    omega
  unstarted hpoint := by
    apply h.unstarted
    apply Bool.eq_false_of_le_false
    rw [← show point.hasStarted = false from hpoint]
    exact hstarted
  retries := by
    have hretries := h.retries
    have hle : point.retrying.toNat ≤ r.point.retrying.toNat := Bool.toNat_le_toNat hretrying
    show r.retriesUsed + point.retrying.toNat ≤ config.maxRetries
    omega
  allowed := by
    show point.allowance ≤ _
    rw [hallowed]
    exact Nat.zero_le _

/-! ## What one step does to the budget -/

/-- A step takes no slot beyond the allowance, and the request stays within its own bounds. -/
structure Advances (config : RequestConfig) (s s' : Shared) (r' : Request) : Prop where
  original : s.counter .originalRequests ≤ s'.counter .originalRequests
  slots : s'.counter .retrySlotsUsed ≤ max (s.counter .retrySlotsUsed)
    (retryAllowance config.retryBudgetPercent (s.counter .originalRequests))
  budgeted : Budgeted config s' r'

/-- A step that takes no slot. -/
theorem Advances.quiet (horiginal : s.counter .originalRequests ≤ s'.counter .originalRequests)
    (hslots : s'.counter .retrySlotsUsed ≤ s.counter .retrySlotsUsed)
    (h : Budgeted config s r') : Advances config s s' r' :=
  ⟨horiginal, hslots.trans (Nat.le_max_left _ _), h.mono horiginal⟩

/-- Every step keeps to the budget: a slot is taken only below the allowance that was read, and the
allowance does not shrink. -/
theorem Stepped.advances (h : Stepped config s r s' r') (hbudgeted : Budgeted config s r) :
    Advances config s s' r' := by
  obtain ⟨hexchange, honward⟩ := h
  obtain ⟨pool, retriesUsed, attemptsStarted, point⟩ := r
  have horiginal := hexchange.counts .originalRequests
  have hslots := hexchange.counts .retrySlotsUsed
  cases honward with
  | goes hattempted hstarted hretrying hallowance hreservation =>
    have hstarted' : point.hasStarted.toNat ≤ _ := Bool.toNat_le_toNat hstarted
    have hreservation' : _ ≤ point.held.reservation.toNat := Bool.toNat_le_toNat hreservation
    simp only [Request.counts] at horiginal hslots
    exact .quiet (by omega) (by omega) (hbudgeted.goes hattempted hstarted hretrying hallowance)
  | attempts hpoint =>
    obtain rfl : point = _ := hpoint
    exact .quiet (Nat.add_right_cancel horiginal).ge (Nat.add_right_cancel hslots).le
      ⟨Nat.succ_le_succ hbudgeted.attempts, Bool.noConfusion, hbudgeted.retries, Nat.zero_le _⟩
  | @loads response _ _ hpoint hretries hloaded =>
    obtain rfl : point = _ := hpoint
    cases response <;>
      exact .quiet (Nat.add_right_cancel horiginal).ge (Nat.add_right_cancel hslots).le
        ⟨hbudgeted.attempts, Bool.noConfusion, hretries, retryAllowance_mono hloaded⟩
  | observes hpoint =>
    obtain rfl : point = _ := hpoint
    exact .quiet (Nat.add_right_cancel horiginal).ge (Nat.add_right_cancel hslots).le
      ⟨hbudgeted.attempts, Bool.noConfusion, hbudgeted.retries, hbudgeted.allowed⟩
  | @reserves response allowed _ hpoint hbelow =>
    obtain rfl : point = _ := hpoint
    have hallowed : allowed ≤ _ := hbudgeted.allowed
    cases response <;>
    · have hle := (Nat.add_right_cancel horiginal).ge
      have hone : s'.counter .retrySlotsUsed + retriesUsed =
        s.counter .retrySlotsUsed + (retriesUsed + 1) := hslots
      exact ⟨hle, by omega, Budgeted.mono (hbudgeted.goes le_rfl le_rfl le_rfl rfl) hle⟩
  | grants hpoint =>
    obtain rfl : point = _ := hpoint
    exact .quiet (Nat.add_right_cancel horiginal).ge (Nat.add_right_cancel hslots).le
      ⟨hbudgeted.attempts, Bool.noConfusion, hbudgeted.retries, Nat.zero_le _⟩

/-! ## Every interleaving -/

section Runs

variable {ids : List String} {e : Ensemble Shared Request}

end Runs

end InferLab.Gateway
