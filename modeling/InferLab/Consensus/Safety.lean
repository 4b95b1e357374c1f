import InferLab.Consensus.Preservation
import InferLab.Transition

/-!
# What the protocol guarantees over whole runs

The invariant holds in every reachable state and the history only grows, so the facts that
the moves establish hold between any two moments of a run: one leader a term
(`Inv.leader_unique`), one committed sequence (`Inv.committed_comparable`), and no leader
without what an earlier term has chosen (`Inv.chosen_prefix_leader`).
-/

namespace InferLab.Consensus

open List

variable {Node Entry : Type}

/-- What node `n` knows to be committed. -/
def State.committed (s : State Node Entry) (n : Node) : List Entry :=
  (s.log n).take (s.commit n)

/-- The registers of `m` have not changed. -/
structure State.SameAt (s s' : State Node Entry) (m : Node) : Prop where
  term : s'.term m = s.term m
  vote : s'.vote m = s.vote m
  log : s'.log m = s.log m
  commit : s'.commit m = s.commit m
  standing : s'.standing m = s.standing m

namespace Protocol

variable [DecidableEq Node] [DecidableEq Entry] {P : Protocol Node Entry}
  {s s' : State Node Entry} {t k : ℕ} {n m : Node}

/-- The protocol as a transition system. -/
def system (P : Protocol Node Entry) : System (State Node Entry) where
  init s := s = init
  step s s' := ∃ n, P.Step n s s'

omit [DecidableEq Node] [DecidableEq Entry] in
lemma Sound.nil : P.Sound s [] := by
  intro i e he
  simp at he

omit [DecidableEq Node] [DecidableEq Entry] in
lemma inv_init : P.Inv init where
  ledger_terms := by simp [init]
  ledger_fits := by simp [init]
  ledger_sound _ := Sound.nil
  ledger_leader := by simp [init]
  base_ledger := by simp [init]
  log_terms := by simp [init]
  log_sound _ := Sound.nil
  leads := by simp [init]
  stands := by simp [init]
  vote_term := by simp [init]
  vote_pos := by simp [init]
  vote_stood := by simp [init]
  ballot_terms := by simp [init]
  ballot_sound := by simp [init]
  leader_term := by simp [init]
  stored_term := by simp [init]
  stored_le := by simp [init]
  stored_kept := by simp [init]
  vote_kept := by simp [init]
  leader_kept := by simp [init]
  commit_known := by simp [init]

/-- One move keeps the invariant and extends the history. -/
theorem Inv.step (h : P.Inv s) (hstep : P.Step n s s') : P.Inv s' ∧ s.Extends s' := by
  cases hstep with
  | advance t later => exact ⟨h.advance later, extends_advance later⟩
  | stand t later => exact ⟨h.stand later, extends_stand h later⟩
  | grant m free stood upToDate => exact ⟨h.grant free stood upToDate, extends_grant free⟩
  | win Q stands quorum votes =>
    exact ⟨h.win stands quorum votes, extends_win h (h.vacant_of_votes stands quorum votes)⟩
  | propose e leads termOf_eq fits =>
    exact ⟨h.propose leads termOf_eq fits, extends_propose h leads⟩
  | store k led le => exact ⟨h.store led le, extends_store n k⟩
  | learn c t k grow past chosen le pre =>
    exact ⟨h.learn grow past chosen le pre, extends_learn grow⟩
  | rest => exact ⟨h.rest n, extends_rest n⟩

lemma Inv.steps (h : P.Inv s) (hsteps : P.system.Steps s s') : P.Inv s' ∧ s.Extends s' := by
  induction hsteps with
  | refl => exact ⟨h, State.Extends.refl s⟩
  | tail _ hlast ih =>
    obtain ⟨hinv, hext⟩ := ih
    obtain ⟨n, hmove⟩ := hlast
    obtain ⟨hinv', hext'⟩ := hinv.step hmove
    exact ⟨hinv', hext.trans hext'⟩

/-! ## The moves of one node -/

/-- Some moves of the node `n` in a row. -/
def Moves (P : Protocol Node Entry) (n : Node) : State Node Entry → State Node Entry → Prop :=
  Relation.ReflTransGen (P.Step n)

lemma Moves.refl (s : State Node Entry) : P.Moves n s s := Relation.ReflTransGen.refl

lemma Moves.trans {s'' : State Node Entry} (h : P.Moves n s s') (h' : P.Moves n s' s'') :
    P.Moves n s s'' :=
  Relation.ReflTransGen.trans h h'

lemma Step.moves (h : P.Step n s s') : P.Moves n s s' := Relation.ReflTransGen.single h

lemma Moves.steps (h : P.Moves n s s') : P.system.Steps s s' := by
  induction h with
  | refl => exact .refl
  | tail _ hstep ih => exact ih.tail ⟨n, hstep⟩

lemma Inv.moves (h : P.Inv s) (hmoves : P.Moves n s s') : P.Inv s' ∧ s.Extends s' :=
  h.steps hmoves.steps

/-- A node's move leaves the registers of the others alone. -/
theorem Step.sameAt (h : P.Step n s s') (hne : m ≠ n) : s.SameAt s' m := by
  cases h <;> constructor <;>
    simp [State.advance, State.stand, State.grant, State.win, State.propose, State.store,
      State.learn, State.rest, hne]

lemma Moves.sameAt (h : P.Moves n s s') (hne : m ≠ n) : s.SameAt s' m := by
  induction h with
  | refl => exact ⟨rfl, rfl, rfl, rfl, rfl⟩
  | tail _ hstep ih =>
    have hsame := hstep.sameAt hne
    exact ⟨hsame.term.trans ih.term, hsame.vote.trans ih.vote, hsame.log.trans ih.log,
      hsame.commit.trans ih.commit, hsame.standing.trans ih.standing⟩

omit [DecidableEq Node] [DecidableEq Entry]

/-! ## One committed sequence -/

section

variable (h : P.Inv s)
include h

/-- What two quorums have stored is one sequence. -/
theorem Inv.chosen_comparable {t' k' : ℕ} (hchosen : P.Chosen s t k) (hchosen' : P.Chosen s t' k') :
    (s.ledger t).take k <+: (s.ledger t').take k' ∨
      (s.ledger t').take k' <+: (s.ledger t).take k := by
  have hled : ∀ {t k}, P.Chosen s t k → s.leader t ≠ none := by
    intro t k hc hnone
    have hlen := hc.1.le_length
    have hpos := hc.1.1
    rw [h.ledger_leader t hnone, length_nil] at hlen
    omega
  rcases le_total t t' with hle | hle
  · exact prefix_or_prefix_of_prefix
      (h.chosen_prefix_ledger hchosen hle (hled hchosen')) (List.take_prefix k' _)
  · exact prefix_or_prefix_of_prefix (List.take_prefix k _)
      (h.chosen_prefix_ledger hchosen' hle (hled hchosen))

/-- What a node knows to be committed is part of what a quorum has stored. -/
theorem Inv.committed_cases (n : Node) : s.committed n = [] ∨
    ∃ t k, t ≤ s.term n ∧ P.Chosen s t k ∧ s.commit n ≤ k ∧
      s.committed n = (s.ledger t).take (s.commit n) := by
  rcases h.commit_known n with h0 | ⟨t, k, ht, hchosen, hle, hpre⟩
  · left
    simp [State.committed, h0]
  · right
    refine ⟨t, k, ht, hchosen, hle, ?_⟩
    have hlen : ((s.ledger t).take (s.commit n)).length = s.commit n := by
      simpa using hle.trans hchosen.1.le_length
    have := prefix_iff_eq_take.mp hpre
    rw [hlen] at this
    exact this.symm

lemma Inv.commit_le_length (n : Node) : s.commit n ≤ (s.log n).length := by
  rcases h.commit_known n with h0 | ⟨t, k, -, hchosen, hle, hpre⟩
  · omega
  · have := hpre.length_le
    have hk := hchosen.1.le_length
    simp only [length_take] at this
    omega

/-- What two nodes know to be committed, at any two moments of a run, is one sequence. -/
theorem Inv.committed_comparable (h' : P.Inv s') (hext : s.Extends s') (n m : Node) :
    s.committed n <+: s'.committed m ∨ s'.committed m <+: s.committed n := by
  rcases h.committed_cases n with hnil | ⟨t, k, -, hchosen, hle, heq⟩
  · simp [hnil]
  rcases h'.committed_cases m with hnil | ⟨t', k', -, hchosen', hle', heq'⟩
  · simp [hnil]
  rw [heq, heq', ← hext.take_ledger (hle.trans hchosen.1.le_length)]
  have hpre := take_prefix_take_left hle (l := s'.ledger t)
  have hpre' := take_prefix_take_left hle' (l := s'.ledger t')
  rcases h'.chosen_comparable (hchosen.mono hext) hchosen' with hcmp | hcmp
  · exact prefix_or_prefix_of_prefix (hpre.trans hcmp) hpre'
  · exact prefix_or_prefix_of_prefix hpre (hpre'.trans hcmp)

/-- What a node knows to be committed changes only with its commit index. -/
theorem Inv.committed_eq (h' : P.Inv s') (hext : s.Extends s')
    (hcommit : s'.commit n = s.commit n) : s'.committed n = s.committed n := by
  have hlen : (s'.committed n).length = (s.committed n).length := by
    have := h.commit_le_length n
    have := h'.commit_le_length n
    simp only [State.committed, length_take]
    omega
  rcases h.committed_comparable h' hext n n with hpre | hpre
  · exact (hpre.eq_of_length hlen.symm).symm
  · exact hpre.eq_of_length hlen

/-! ## No leader without what was chosen before -/

/-- A leader of a later term has the chosen entries, also when it was elected before the
quorum was complete: `s` is any moment of the run and `s'` one at which they are chosen. -/
theorem Inv.chosen_prefix_leader (h' : P.Inv s') (hext : s.Extends s') (hchosen : P.Chosen s' t k)
    (hn : s.standing n = .leader) (hlater : t < s.term n) : (s'.ledger t).take k <+: s.log n := by
  obtain ⟨hled, hlog, -⟩ := h.leads n hn
  have hne : s.leader (s.term n) ≠ none := by
    rw [hled]
    exact Option.some_ne_none n
  have hbase := h'.chosen_prefix_base hchosen _ hlater (hext.leader_ne_none hne)
  rw [hext.base _ hne] at hbase
  rw [hlog]
  exact hbase.trans (h.base_ledger _)

/-- A leader of a later term than that of a node has all the node knows to be committed,
whichever of the two moments comes first. -/
theorem Inv.committed_prefix_leader (h' : P.Inv s') (hext : s.Extends s' ∨ s'.Extends s)
    (hm : s'.standing m = .leader) (hlater : s.term n < s'.term m) :
    s.committed n <+: s'.log m := by
  rcases h.committed_cases n with hnil | ⟨t, k, ht, hchosen, hle, heq⟩
  · simp [hnil]
  rw [heq]
  refine (take_prefix_take_left hle).trans ?_
  rcases hext with hext | hext
  · have := h'.chosen_prefix_leader h' (State.Extends.refl s') (hchosen.mono hext) hm (by omega)
    rwa [hext.take_ledger hchosen.1.le_length] at this
  · exact h'.chosen_prefix_leader h hext hchosen hm (by omega)

/-- The ledger of a term has all that a node of no later term knows to be committed. -/
theorem Inv.committed_prefix_ledger (hled : s.leader t ≠ none) (hle : s.term n ≤ t) :
    s.committed n <+: s.ledger t := by
  rcases h.committed_cases n with hnil | ⟨u, k, hu, hchosen, hk, heq⟩
  · simp [hnil]
  rw [heq]
  exact (take_prefix_take_left hk).trans (h.chosen_prefix_ledger hchosen (hu.trans hle) hled)

/-- What a quorum has stored, its nodes keep. -/
theorem Inv.chosen_kept (hchosen : P.Chosen s t k) (hk : k ≤ s.stored n t) :
    (s.ledger t).take k <+: s.log n := by
  rcases h.stored_kept n t k hk with hpre | ⟨u, hlater, -, hled, hlost⟩
  · exact hpre
  · exact absurd (h.chosen_prefix_base hchosen u hlater hled) hlost

/-! ## What a node has stored of a leader's log -/

/-- What a node has stored of the ledger of a leader is common to both logs, as long as the
node has not moved to a later term. -/
theorem Inv.stored_le_agreement [DecidableEq Entry] (hm : s.standing m = .leader)
    (hle : s.term n ≤ s.term m) (hk : k ≤ s.stored n (s.term m)) :
    k ≤ agreement (s.log m) (s.log n) := by
  obtain ⟨-, hlog, -⟩ := h.leads m hm
  rw [le_agreement_iff, hlog]
  refine ⟨hk.trans (h.stored_le n _), ?_⟩
  rcases h.stored_kept n _ k hk with hpre | ⟨t', hlater, hterm, -⟩
  · exact hpre
  · -- only a leader of a later term could have made the node drop entries
    omega

end

end Protocol

end InferLab.Consensus
