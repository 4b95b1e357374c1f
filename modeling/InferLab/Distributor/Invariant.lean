import InferLab.Distributor.Model
import InferLab.ServiceAuth.Codecs
import Mathlib.Data.List.Nodup

/-!
# Trust distributor: what holds in every run

The policy that is current only gives way to one of a larger generation, and the receipts that
are stored are those of the current policy. The state in memory is the one in the file, but for
the time in which a write is under way. A write that may or may not last stops all further
changes until the distributor is started again.
-/

namespace InferLab.Distributor

open ServiceAuth Wire Option Except List

/-! ## Successive policies -/

/-- The policy `b` that is current after `a`: the same one or one of a larger generation. -/
def Advances (a b : Option ServiceTrustSnapshot) : Prop :=
  ∀ x ∈ a, ∃ y ∈ b, x = y ∨ x.policy.generation < y.policy.generation

lemma Advances.refl (a : Option ServiceTrustSnapshot) : Advances a a :=
  fun x hx => ⟨x, hx, .inl rfl⟩

lemma Advances.trans {a b c : Option ServiceTrustSnapshot} (hab : Advances a b)
    (hbc : Advances b c) : Advances a c := by
  intro x hx
  obtain ⟨y, hy, hxy⟩ := hab x hx
  obtain ⟨z, hz, hyz⟩ := hbc y hy
  refine ⟨z, hz, ?_⟩
  rcases hxy with rfl | hxy
  · exact hyz
  · rcases hyz with rfl | hyz
    · exact .inr hxy
    · exact .inr (UInt64.lt_trans hxy hyz)

/-- One policy for each generation. -/
theorem Advances.eq_of_generation_eq {a b : Option ServiceTrustSnapshot} (h : Advances a b)
    {x y : ServiceTrustSnapshot} (hx : x ∈ a) (hy : y ∈ b)
    (hgeneration : x.policy.generation = y.policy.generation) : x = y := by
  obtain ⟨z, hz, hxz⟩ := h x hx
  obtain rfl := mem_unique hy hz
  rcases hxz with rfl | hlt
  · rfl
  · rw [hgeneration] at hlt
    exact absurd hlt (UInt64.lt_irrefl _)

/-! ## Valid states -/

section Valid

variable [Ed25519] [Base64] (config : DistributorConfig) (roots : TrustedServiceTrustRootKeyRing)

/-- A receipt that shows that an expected receiver has applied the policy. -/
structure ReceiptFor (snapshot : ServiceTrustSnapshot) (receipt : ServiceTrustApplicationReceipt) :
    Prop where
  identifies : receiptMatchesSnapshot receipt snapshot = true
  expected : receiptReceiverSlot config receipt ∈ config.expectedReceivers
  verifies : ∃ verified, roots.verify snapshot = .ok verified ∧
    verified.compiled.keys.verifyTrustReceipt receipt = .ok receipt.payload

/-- The receipts are for the current policy, one a receiver. -/
structure DurableState.Valid (state : DurableState) : Prop where
  receipts : ∀ receipt ∈ state.receipts, ∃ snapshot ∈ state.currentSnapshot,
    ReceiptFor config roots snapshot receipt
  slots : (state.receipts.map (receiptReceiverSlot config)).Nodup

/-- What a request may write: a valid state that follows the one in memory. -/
structure Writable (state : RuntimeState) (next : DurableState) : Prop where
  healthy : state.mutationPoison = none
  valid : next.Valid config roots
  advances : Advances state.durable.currentSnapshot next.currentSnapshot

variable {config roots}

lemma DurableState.valid_default : DurableState.default.Valid config roots where
  receipts _ h := absurd h not_mem_nil
  slots := nodup_nil

lemma verify_of_verifySnapshot {snapshot : ServiceTrustSnapshot}
    {verified : VerifiedServiceTrustSnapshot}
    (h : verifySnapshot config roots snapshot = .ok verified) :
    roots.verify snapshot = .ok verified := by
  unfold verifySnapshot at h
  obtain ⟨v, hv, h⟩ := of_bind h
  obtain ⟨_, _, h⟩ := of_bind h
  obtain ⟨_, _, h⟩ := of_bind h
  obtain rfl : v = verified := ok.inj h
  exact of_mapError hv

variable {state : RuntimeState} {next : DurableState}

lemma publishVerified_write {snapshot : ServiceTrustSnapshot}
    {verified : VerifiedServiceTrustSnapshot} {reply : Reply}
    (hpolicy : verified.policy = snapshot.policy)
    (h : publishVerified state snapshot verified = .write next reply) :
    Writable config roots state next := by
  -- Publishing clears the receipts, so only the order of the generations is at stake.
  have hnew : ∀ state' : DurableState,
      { state' with currentSnapshot := some snapshot, receipts := [] } = next →
      next.Valid config roots ∧ next.currentSnapshot = some snapshot := by
    rintro state' rfl
    exact ⟨⟨fun _ h => absurd h not_mem_nil, nodup_nil⟩, rfl⟩
  unfold publishVerified at h
  obtain ⟨hpoison, h⟩ := of_ite_eq h nofun
  have hhealthy : state.mutationPoison = none := by simpa using hpoison
  cases hcurrent : state.durable.currentSnapshot with
  | none =>
    simp only [hcurrent, Decision.write.injEq] at h
    exact ⟨hhealthy, (hnew _ h.1).1, fun x hx => by rw [hcurrent] at hx; cases hx⟩
  | some current =>
    simp only [hcurrent] at h
    obtain ⟨hlt, h⟩ := of_ite_eq h nofun
    by_cases heq : verified.policy.generation = current.policy.generation
    · rw [if_pos heq] at h
      split at h <;> cases h
    · rw [if_neg heq, Decision.write.injEq] at h
      obtain ⟨hvalid, hnext⟩ := hnew _ h.1
      refine ⟨hhealthy, hvalid, fun x hx => ⟨snapshot, hnext, .inr ?_⟩⟩
      obtain rfl : current = x := by simpa [hcurrent] using hx
      rw [← hpolicy]
      exact UInt64.lt_of_le_of_ne (UInt64.not_lt.mp hlt) (Ne.symm heq)

lemma checkReceipt_ok {receipt : ServiceTrustApplicationReceipt} {u : Unit}
    (h : checkReceipt config roots state receipt = .ok u) :
    state.mutationPoison = none ∧
      (∃ snapshot ∈ state.durable.currentSnapshot, ReceiptFor config roots snapshot receipt) ∧
      ∀ existing ∈ state.durable.receipts,
        receiptReceiverSlot config existing ≠ receiptReceiverSlot config receipt := by
  unfold checkReceipt at h
  obtain ⟨_, hhealthy, h⟩ := of_bind h
  cases hcurrent : state.durable.currentSnapshot with
  | none =>
    simp only [hcurrent] at h
    cases h
  | some snapshot =>
    simp only [hcurrent] at h
    obtain ⟨_, hexpected, h⟩ := of_bind h
    obtain ⟨_, hmatches, h⟩ := of_bind h
    obtain ⟨verified, hverified, h⟩ := of_bind h
    obtain ⟨payload, hreceipt, h⟩ := of_bind h
    have hverify := verify_of_verifySnapshot (of_mapError hverified)
    have hreceipt := of_mapError hreceipt
    have hexpected := of_require hexpected
    have hfree := of_require h
    refine ⟨by simpa using of_require hhealthy, ⟨snapshot, rfl, ?_⟩, ?_⟩
    · refine ⟨of_require hmatches, by simpa using hexpected, verified, hverify, ?_⟩
      rw [hreceipt, (ReceiptVerified.of_verifyTrustReceipt hreceipt).2]
    · simpa using hfree

variable [Json ServiceTrustSnapshot] [Json ServiceTrustApplicationReceipt]

omit [Json ServiceTrustApplicationReceipt] in
lemma publishSnapshot_write {body : Bytes} {reply : Reply}
    (h : publishSnapshot config roots body state = .write next reply) :
    Writable config roots state next := by
  unfold publishSnapshot at h
  cases hdecoded : (Json.fromSlice body : Option ServiceTrustSnapshot) with
  | none =>
    rw [hdecoded] at h
    cases h
  | some snapshot =>
    simp only [hdecoded] at h
    cases hverified : verifySnapshot config roots snapshot with
    | error error =>
      rw [hverified] at h
      cases h
    | ok verified =>
      simp only [hverified] at h
      have hverify := RootVerified.of_verify (verify_of_verifySnapshot hverified)
      exact publishVerified_write hverify.policy_eq h

omit [Json ServiceTrustSnapshot] in
lemma postReceipt_write {body : Bytes} {reply : Reply} (hvalid : state.durable.Valid config roots)
    (h : postReceipt config roots body state = .write next reply) :
    Writable config roots state next := by
  unfold postReceipt at h
  cases hdecoded : (Json.fromSlice body : Option ServiceTrustApplicationReceipt) with
  | none =>
    rw [hdecoded] at h
    cases h
  | some receipt =>
    simp only [hdecoded] at h
    cases hchecked : checkReceipt config roots state receipt with
    | error reply =>
      rw [hchecked] at h
      cases h
    | ok _ =>
      rw [hchecked] at h
      obtain ⟨hhealthy, hreceipt, hfree⟩ := checkReceipt_ok hchecked
      obtain ⟨rfl, -⟩ := Decision.write.inj h
      refine ⟨hhealthy, ⟨?_, ?_⟩, Advances.refl _⟩
      · intro existing hexisting
        rcases mem_append.mp hexisting with hold | hnew
        · exact hvalid.receipts existing hold
        · rw [mem_singleton.mp hnew]
          exact hreceipt
      · rw [map_append, nodup_append]
        refine ⟨hvalid.slots, nodup_singleton _, ?_⟩
        intro slot hslot other hother
        obtain ⟨existing, hexisting, rfl⟩ := mem_map.mp hslot
        rw [mem_singleton.mp hother]
        exact hfree existing hexisting

lemma app_write {route : Route} {body : Bytes} {reply : Reply}
    (hvalid : state.durable.Valid config roots)
    (h : app config roots route body state = .write next reply) :
    Writable config roots state next := by
  unfold app at h
  obtain ⟨-, h⟩ := of_ite_eq h nofun
  cases route with
  | snapshot =>
    dsimp only at h
    exact publishSnapshot_write h
  | receipts =>
    dsimp only at h
    exact postReceipt_write hvalid h

end Valid

/-! ## The file and the process -/

section Runs

variable [Ed25519] [Base64] [Json DurableState] {config : DistributorConfig}
  {roots : TrustedServiceTrustRootKeyRing}

variable (config roots) in
/-- The state in memory against the file: the same, but for a write that is under way. -/
structure Process.Follows (file : Option Bytes) (process : Process) : Prop where
  valid : process.runtime.durable.Valid config roots
  idle : process.write = none → decodeFile file = some process.runtime.durable
  writing : ∀ write ∈ process.write, Writable config roots process.runtime write.next ∧
    decodeFile file = some (if write.replaced then write.next else process.runtime.durable)

variable (config roots) in
/-- The file decodes, and the process follows it. -/
structure DistributorState.Consistent (s : DistributorState) : Prop where
  file : ∃ state, decodeFile s.file = some state ∧ state.Valid config roots
  process : ∀ process ∈ s.process, process.Follows config roots s.file

variable (config roots) in
/-- What a step may do to the file and to the process that runs. -/
inductive Process.Change (file : Option Bytes) (process : Process) : Option Bytes → Process → Prop
  | stays (failedTasks : ℕ) : Change file process file { process with failedTasks := failedTasks }
  | begins {next : DurableState} : process.write = none →
      Writable config roots process.runtime next →
      Change file process file { process with write := some ⟨next, false⟩ }
  | replaces {next : DurableState} : process.write = some ⟨next, false⟩ →
      Change file process (some (Json.toVec next)) { process with write := some ⟨next, true⟩ }
  | completes {next : DurableState} (poison : Option String) :
      process.write = some ⟨next, true⟩ →
      Change file process file { process with runtime := ⟨next, poison⟩, write := none }
  | fails {next : DurableState} (failedTasks : ℕ) : process.write = some ⟨next, false⟩ →
      Change file process file { process with write := none, failedTasks := failedTasks }
  | poisons (reason : String) (failedTasks : ℕ) : process.write = none →
      Change file process file { process with
        runtime := { process.runtime with mutationPoison := some reason }
        failedTasks := failedTasks }

variable {process process' : Process}

/-- The file after a change holds a valid state again, and the process follows it. -/
theorem Process.Follows.change [LawfulJson DurableState] {file file' : Option Bytes}
    (hfollows : process.Follows config roots file)
    (hfile : ∃ state, decodeFile file = some state ∧ state.Valid config roots)
    (h : process.Change config roots file file' process') :
    process'.Follows config roots file' ∧
      (∃ state, decodeFile file' = some state ∧ state.Valid config roots) := by
  cases h with
  | stays failedTasks => exact ⟨⟨hfollows.valid, hfollows.idle, hfollows.writing⟩, hfile⟩
  | begins hidle hwritable =>
    refine ⟨⟨hfollows.valid, nofun, ?_⟩, hfile⟩
    rintro write ⟨rfl⟩
    exact ⟨hwritable, hfollows.idle hidle⟩
  | @replaces next hwrite =>
    obtain ⟨hwritable, -⟩ := hfollows.writing _ hwrite
    have hnext : decodeFile (some (Json.toVec next)) = some next := LawfulJson.fromSlice_toVec next
    refine ⟨⟨hfollows.valid, nofun, ?_⟩, next, hnext, hwritable.valid⟩
    rintro write ⟨rfl⟩
    exact ⟨hwritable, hnext⟩
  | completes poison hwrite =>
    obtain ⟨hwritable, hnext⟩ := hfollows.writing _ hwrite
    exact ⟨⟨hwritable.valid, fun _ => hnext, nofun⟩, hfile⟩
  | fails failedTasks hwrite =>
    obtain ⟨-, hold⟩ := hfollows.writing _ hwrite
    exact ⟨⟨hfollows.valid, fun _ => hold, nofun⟩, hfile⟩
  | poisons reason failedTasks hidle =>
    refine ⟨⟨hfollows.valid, hfollows.idle, fun write hwrite => ?_⟩, hfile⟩
    rw [show process.write = none from hidle] at hwrite
    cases hwrite

lemma Process.Change.advances {file file' : Option Bytes}
    (hfollows : process.Follows config roots file)
    (h : process.Change config roots file file' process') :
    Advances process.runtime.durable.currentSnapshot process'.runtime.durable.currentSnapshot := by
  cases h with
  | completes poison hwrite => exact (hfollows.writing _ hwrite).1.advances
  | stays => exact Advances.refl _
  | begins => exact Advances.refl _
  | replaces => exact Advances.refl _
  | fails => exact Advances.refl _
  | poisons => exact Advances.refl _

variable {file : Option Bytes}

/-- A process that ends leaves the policy in memory, or the one that it was about to install. -/
theorem Process.Follows.advances_file {process : Process} (h : process.Follows config roots file) :
    Advances process.runtime.durable.currentSnapshot
      ((decodeFile file).bind DurableState.currentSnapshot) := by
  cases hwrite : process.write with
  | none =>
    rw [h.idle hwrite]
    exact Advances.refl _
  | some write =>
    obtain ⟨hwritable, hfile⟩ := h.writing write hwrite
    rw [hfile]
    cases write.replaced with
    | true => exact hwritable.advances
    | false => exact Advances.refl _

/-- A poisoned process has no write under way and begins none. -/
theorem Process.Change.of_poisoned {file file' : Option Bytes}
    (hfollows : process.Follows config roots file)
    (hpoisoned : process.runtime.mutationPoison ≠ none)
    (h : process.Change config roots file file' process') :
    file' = file ∧ process'.runtime.durable = process.runtime.durable ∧
      process'.runtime.mutationPoison ≠ none := by
  have hidle : ∀ write, process.write ≠ some write := fun write hwrite =>
    hpoisoned (hfollows.writing write hwrite).1.healthy
  cases h with
  | stays => exact ⟨rfl, rfl, hpoisoned⟩
  | begins _ hwritable => exact absurd hwritable.healthy hpoisoned
  | replaces hwrite => exact absurd hwrite (hidle _)
  | completes _ hwrite => exact absurd hwrite (hidle _)
  | fails _ hwrite => exact absurd hwrite (hidle _)
  | poisons => exact ⟨rfl, rfl, nofun⟩

omit [Ed25519] [Base64] in
lemma decodeFile_of_loadState {errors : FileErrors} {state : DurableState}
    (h : loadState config file errors = .ok state) : decodeFile file = some state := by
  unfold loadState at h
  obtain ⟨_, _, h⟩ := of_bind h
  cases file with
  | none => exact congrArg some (ok.inj h)
  | some bytes =>
    obtain ⟨_, _, h⟩ := of_bind h
    obtain ⟨_, _, h⟩ := of_bind h
    cases hdecoded : (Json.fromSlice bytes : Option DurableState) with
    | none =>
      rw [hdecoded] at h
      cases h
    | some decoded =>
      rw [hdecoded] at h
      obtain rfl : decoded = state := ok.inj h
      exact hdecoded

variable [Json ServiceTrustSnapshot]

lemma open_ok {errors : FileErrors} {runtime : RuntimeState}
    (h : TrustDistributor.open config roots file errors = .ok runtime) :
    decodeFile file = some runtime.durable ∧ runtime.mutationPoison = none := by
  unfold TrustDistributor.open at h
  obtain ⟨_, _, h⟩ := of_bind h
  obtain ⟨state, hstate, h⟩ := of_bind h
  obtain ⟨_, _, h⟩ := of_bind h
  obtain rfl := ok.inj h
  exact ⟨decodeFile_of_loadState hstate, rfl⟩

variable [Json ServiceTrustApplicationReceipt] {action : DistributorAction}

lemma Process.change_of_step {file file' : Option Bytes}
    (hvalid : process.runtime.durable.Valid config roots)
    (h : process.step config roots file action = some (file', process')) :
    process.Change config roots file file' process' := by
  cases action with
  | start errors => cases h
  | crash => cases h
  | request route body =>
    simp only [Process.step] at h
    obtain ⟨hwrite, h⟩ := of_ite_eq h nofun
    cases hdecision : app config roots route body process.runtime with
    | reply reply =>
      simp only [hdecision, some.injEq, Prod.mk.injEq] at h
      obtain ⟨rfl, rfl⟩ := h
      exact .stays process.failedTasks
    | write next reply =>
      simp only [hdecision, some.injEq, Prod.mk.injEq] at h
      obtain ⟨rfl, rfl⟩ := h
      exact .begins (by simpa using hwrite) (app_write hvalid hdecision)
  | replace =>
    cases hwrite : process.write with
    | none => simp [Process.step, hwrite] at h
    | some write =>
      obtain ⟨next, replaced⟩ := write
      cases replaced with
      | true => simp [Process.step, hwrite] at h
      | false =>
        simp only [Process.step, hwrite, some.injEq, Prod.mk.injEq] at h
        obtain ⟨rfl, rfl⟩ := h
        exact .replaces hwrite
  | finish success =>
    cases hwrite : process.write with
    | none => simp [Process.step, hwrite] at h
    | some write =>
      obtain ⟨next, replaced⟩ := write
      cases replaced with
      | true =>
        cases success <;>
        · simp only [Process.step, hwrite, PendingWrite.finish, Bool.not_true, Bool.and_false,
            Bool.false_eq_true, if_false, if_true, some.injEq, Prod.mk.injEq] at h
          obtain ⟨rfl, rfl⟩ := h
          exact .completes _ hwrite
      | false =>
        cases success with
        | true => simp [Process.step, hwrite] at h
        | false =>
          simp only [Process.step, hwrite, PendingWrite.finish, Bool.false_and,
            Bool.false_eq_true, if_false, some.injEq, Prod.mk.injEq] at h
          obtain ⟨rfl, rfl⟩ := h
          exact .fails process.failedTasks hwrite
  | abandon =>
    cases hwrite : process.write with
    | none => simp [Process.step, hwrite] at h
    | some write =>
      obtain ⟨next, replaced⟩ := write
      cases replaced with
      | true => simp [Process.step, hwrite] at h
      | false =>
        simp only [Process.step, hwrite, some.injEq, Prod.mk.injEq] at h
        obtain ⟨rfl, rfl⟩ := h
        exact .fails (process.failedTasks + 1) hwrite
  | recordFailedTask =>
    simp only [Process.step] at h
    obtain ⟨hwrite, h⟩ := of_ite_eq h nofun
    simp only [some.injEq, Prod.mk.injEq] at h
    obtain ⟨rfl, rfl⟩ := h
    simp only [Bool.or_eq_true, not_or] at hwrite
    exact .poisons mutationStorageTaskFailed (process.failedTasks - 1) (by simpa using hwrite.1)
  | cancelFailedTask =>
    simp only [Process.step] at h
    obtain ⟨-, h⟩ := of_ite_eq h nofun
    simp only [some.injEq, Prod.mk.injEq] at h
    obtain ⟨rfl, rfl⟩ := h
    exact .stays (process.failedTasks - 1)

/-! ## Runs -/

/-- The policy that is current: that in memory, or in the file while no process runs. -/
def DistributorState.current (s : DistributorState) : Option ServiceTrustSnapshot :=
  match s.process with
  | some process => process.runtime.durable.currentSnapshot
  | none => (decodeFile s.file).bind DurableState.currentSnapshot

variable {s s' : DistributorState}

/-- A step starts a process, ends it, or is a change of the one that runs. -/
theorem DistributorState.step_cases (hs : s.Consistent config roots)
    (h : s.step config roots action = some s') :
    s' = s ∨
    (∃ runtime errors, action = .start errors ∧ s.process = none ∧
      decodeFile s.file = some runtime.durable ∧
      s' = { s with process := some ⟨runtime, none, 0⟩ }) ∨
    (∃ process, s.process = some process ∧ s' = { s with process := none }) ∨
    (∃ process, s.process = some process ∧ ∃ file process',
      process.Change config roots s.file file process' ∧ s' = ⟨file, some process'⟩) := by
  cases hprocess : s.process with
  | none =>
    cases action with
    | start errors =>
      simp only [DistributorState.step, hprocess] at h
      cases hopen : TrustDistributor.open config roots s.file errors with
      | error message =>
        simp only [hopen, some.injEq] at h
        exact .inl h.symm
      | ok runtime =>
        simp only [hopen, some.injEq] at h
        exact .inr (.inl ⟨runtime, errors, rfl, rfl, (open_ok hopen).1, h.symm⟩)
    | _ =>
      simp only [DistributorState.step, hprocess] at h
      cases h
  | some process =>
    by_cases hcrash : action = .crash
    · subst hcrash
      simp only [DistributorState.step, hprocess, some.injEq] at h
      exact .inr (.inr (.inl ⟨process, rfl, h.symm⟩))
    · have hstep : (process.step config roots s.file action).map
          (fun next => (⟨next.1, some next.2⟩ : DistributorState)) = some s' := by
        cases action with
        | crash => exact absurd rfl hcrash
        | _ =>
          simp only [DistributorState.step, hprocess] at h
          exact h
      obtain ⟨⟨file, process'⟩, hchange, rfl⟩ := map_eq_some_iff.mp hstep
      exact .inr (.inr (.inr ⟨process, rfl, file, process',
        Process.change_of_step (hs.process process hprocess).valid hchange, rfl⟩))

lemma DistributorState.Consistent.step [LawfulJson DurableState] (hs : s.Consistent config roots)
    (h : s.step config roots action = some s') : s'.Consistent config roots := by
  rcases DistributorState.step_cases hs h with
    rfl | ⟨runtime, errors, -, -, hfile, rfl⟩ | ⟨process, -, rfl⟩ |
      ⟨process, hprocess, file, process', hchange, rfl⟩
  · exact hs
  · refine ⟨hs.file, ?_⟩
    rintro process ⟨rfl⟩
    obtain ⟨state, hstate, hvalid⟩ := hs.file
    obtain rfl : runtime.durable = state := some.inj (hfile.symm.trans hstate)
    exact ⟨hvalid, fun _ => hfile, nofun⟩
  · exact ⟨hs.file, fun _ h => absurd h (not_mem_none _)⟩
  · obtain ⟨hfollows, hfile⟩ := (hs.process process hprocess).change hs.file hchange
    refine ⟨hfile, ?_⟩
    rintro other ⟨rfl⟩
    exact hfollows

lemma DistributorState.Consistent.of_reachable [LawfulJson DurableState] {s : DistributorState}
    (h : (distributorSystem config roots).Reachable s) : s.Consistent config roots := by
  refine h.invariant (I := DistributorState.Consistent config roots) ?_ ?_
  · rintro _ rfl
    exact ⟨⟨DurableState.default, rfl, DurableState.valid_default⟩,
      fun _ h => absurd h (not_mem_none _)⟩
  · rintro s s' hs ⟨action, hstep⟩
    exact hs.step hstep

lemma DistributorState.advances_of_step (hs : s.Consistent config roots)
    (h : s.step config roots action = some s') : Advances s.current s'.current := by
  rcases DistributorState.step_cases hs h with
    rfl | ⟨runtime, errors, -, hprocess, hfile, rfl⟩ | ⟨process, hprocess, rfl⟩ |
      ⟨process, hprocess, file, process', hchange, rfl⟩
  · exact Advances.refl _
  · simp only [DistributorState.current, hprocess, hfile, bind_some]
    exact Advances.refl _
  · simp only [DistributorState.current, hprocess]
    exact (hs.process process hprocess).advances_file
  · simp only [DistributorState.current, hprocess]
    exact hchange.advances (hs.process process hprocess)

lemma DistributorState.advances_of_steps [LawfulJson DurableState]
    (hs : s.Consistent config roots) (h : (distributorSystem config roots).Steps s s') :
    Advances s.current s'.current := by
  induction h using Relation.ReflTransGen.head_induction_on with
  | refl => exact Advances.refl _
  | head hfirst _ ih =>
    obtain ⟨action, hstep⟩ := hfirst
    exact (DistributorState.advances_of_step hs hstep).trans (ih (hs.step hstep))

variable (config roots) in
/-- The steps up to the next start of the distributor. -/
def StepsBeforeStart : DistributorState → DistributorState → Prop :=
  Relation.ReflTransGen fun s s' =>
    ∃ action, (∀ errors, action ≠ .start errors) ∧ s.step config roots action = some s'

/-- What is kept from a poisoning on: the process either is poisoned with this state or ended. -/
structure DistributorState.Frozen (file : Option Bytes) (durable : DurableState)
    (s : DistributorState) : Prop where
  file_eq : s.file = file
  process : ∀ process ∈ s.process, process.runtime.durable = durable ∧
    process.runtime.mutationPoison ≠ none

lemma DistributorState.Frozen.step {durable : DurableState} (hs : s.Consistent config roots)
    (hfrozen : s.Frozen file durable) (hnostart : ∀ errors, action ≠ .start errors)
    (h : s.step config roots action = some s') : s'.Frozen file durable := by
  rcases DistributorState.step_cases hs h with
    rfl | ⟨runtime, errors, hstart, -⟩ | ⟨process, -, rfl⟩ |
      ⟨process, hprocess, file', process', hchange, rfl⟩
  · exact hfrozen
  · exact absurd hstart (hnostart errors)
  · exact ⟨hfrozen.file_eq, fun _ h => absurd h (not_mem_none _)⟩
  · obtain ⟨hdurable, hpoisoned⟩ := hfrozen.process process hprocess
    obtain ⟨hfile, hsame, hpoisoned'⟩ :=
      hchange.of_poisoned (hs.process process hprocess) hpoisoned
    refine ⟨hfile.trans hfrozen.file_eq, ?_⟩
    rintro other ⟨rfl⟩
    exact ⟨hsame.trans hdurable, hpoisoned'⟩

lemma DistributorState.Frozen.steps [LawfulJson DurableState] {durable : DurableState}
    (hs : s.Consistent config roots) (hfrozen : s.Frozen file durable)
    (h : StepsBeforeStart config roots s s') : s'.Frozen file durable := by
  suffices s'.Consistent config roots ∧ s'.Frozen file durable from this.2
  induction h with
  | refl => exact ⟨hs, hfrozen⟩
  | tail _ hlast ih =>
    obtain ⟨action, hnostart, hstep⟩ := hlast
    exact ⟨ih.1.step hstep, ih.2.step ih.1 hnostart hstep⟩

/-- The state of the distributor in every run. Its policy only gives way to one of a larger
generation, also across crashes, so there is one policy for each generation. The receipts, in
memory and in the file, are those of expected receivers for the current policy, one for each
slot. Memory and file agree while no write is under way, and a poisoned state stays as it is up
to the next start. -/
theorem distributor_state_invariant [LawfulJson DurableState] {s : DistributorState}
    (h : (distributorSystem config roots).Reachable s) :
    (∀ s', (distributorSystem config roots).Steps s s' → Advances s.current s'.current ∧
      ∀ x ∈ s.current, ∀ y ∈ s'.current, x.policy.generation = y.policy.generation → x = y) ∧
    (∃ state, decodeFile s.file = some state ∧ state.Valid config roots) ∧
    ∀ process ∈ s.process,
      process.runtime.durable.Valid config roots ∧
      (process.write = none → decodeFile s.file = some process.runtime.durable) ∧
      (process.runtime.mutationPoison ≠ none → ∀ s', StepsBeforeStart config roots s s' →
        s'.file = s.file ∧
        ∀ process' ∈ s'.process, process'.runtime.durable = process.runtime.durable) := by
  have hs := DistributorState.Consistent.of_reachable h
  refine ⟨fun s' hsteps => ?_, hs.file, fun process hprocess => ?_⟩
  · have hadvances := DistributorState.advances_of_steps hs hsteps
    exact ⟨hadvances, fun x hx y hy => hadvances.eq_of_generation_eq hx hy⟩
  · have hfollows := hs.process process hprocess
    refine ⟨hfollows.valid, hfollows.idle, fun hpoisoned s' hsteps => ?_⟩
    have hfrozen : s.Frozen s.file process.runtime.durable := by
      refine ⟨rfl, fun other hother => ?_⟩
      obtain rfl := mem_unique hprocess hother
      exact ⟨rfl, hpoisoned⟩
    have hlast := hfrozen.steps hs hsteps
    exact ⟨hlast.file_eq, fun process' hprocess' => (hlast.process process' hprocess').1⟩

end Runs

/-! ## A run that ends with a poisoned state -/

section Example

open Codec

def durableCodec : Codec DurableState :=
  (string.pair ((option snapshotCodec).pair (list receiptCodec))).map
    (fun s => (s.schema, s.currentSnapshot, s.receipts)) (fun (a, b, c) => ⟨a, b, c⟩)
    fun _ => rfl

def nodeConfig : DistributorConfig := ⟨"c", "state", ["n"], 4096⟩

def sampleStep : DistributorState → DistributorAction → Option DistributorState :=
  @DistributorState.step checksumEd25519 standardBase64 durableCodec.json snapshotCodec.json
    receiptCodec.json nodeConfig ServiceAuth.roots

def sampleSystem : System DistributorState :=
  @distributorSystem checksumEd25519 standardBase64 durableCodec.json snapshotCodec.json
    receiptCodec.json nodeConfig ServiceAuth.roots

/-- The directory is not synced after the receipt has been written. -/
def unsyncedReceipt : List DistributorAction :=
  [.start ⟨none, none⟩,
    .request .snapshot (snapshotCodec.put firstSnapshot), .replace, .finish true,
    .request .receipts (receiptCodec.put firstReceipt), .replace, .finish false]

/-- What is stored in memory and whether it may change. -/
def DistributorState.summary (s : DistributorState) : Option (Option String × ℕ) :=
  s.process.map fun process =>
    (process.runtime.mutationPoison, process.runtime.durable.receipts.length)

theorem distributor_state_invariant_unsynced : ∃ s process, sampleSystem.Reachable s ∧
    s.process = some process ∧
    process.runtime.mutationPoison = some mutationDurabilityUncertain ∧
    process.runtime.durable.receipts.length = 1 ∧
    ∀ s', @StepsBeforeStart checksumEd25519 standardBase64 durableCodec.json nodeConfig
      ServiceAuth.roots snapshotCodec.json receiptCodec.json s s' → s'.file = s.file := by
  have hrun : (unsyncedReceipt.foldlM sampleStep ⟨none, none⟩).map DistributorState.summary =
      some (some (some mutationDurabilityUncertain, 1)) := by
    decide +kernel
  obtain ⟨s, hs, hsummary⟩ := map_eq_some_iff.mp hrun
  obtain ⟨process, hprocess, heq⟩ := map_eq_some_iff.mp hsummary
  obtain ⟨hpoisoned, hreceipts⟩ := Prod.mk.inj heq
  have hreachable : sampleSystem.Reachable s := ⟨⟨none, none⟩, rfl,
    System.Steps.of_actions (fun _ action _ h => ⟨action, h⟩) hs⟩
  have hinvariant := (@distributor_state_invariant checksumEd25519 standardBase64
    durableCodec.json nodeConfig ServiceAuth.roots snapshotCodec.json receiptCodec.json
    durableCodec.lawful_json s hreachable).2.2 process hprocess
  refine ⟨s, process, hreachable, hprocess, hpoisoned, hreceipts, fun s' hsteps => ?_⟩
  exact (hinvariant.2.2 (by rw [hpoisoned]; nofun) s' hsteps).1

end Example

end InferLab.Distributor
