import InferLab.Consensus.Invariant

/-!
# Every move keeps the invariant

`Extends s s'` says how the history of `s'` goes on from that of `s`: terms grow, votes,
leaders and ballots stay, ledgers are extended at their end. What a clause of the invariant
says of the past carries over along it, so each move only has to account for what it adds.
-/

namespace InferLab.Consensus

open List Option Function

variable {Node Entry : Type}

/-- The history of `s'` goes on from that of `s`. -/
structure State.Extends (s s' : State Node Entry) : Prop where
  term_le : ∀ n, s.term n ≤ s'.term n
  commit_le : ∀ n, s.commit n ≤ s'.commit n
  vote : ∀ n t m, s.vote n t = some m → s'.vote n t = some m
  leader : ∀ t n, s.leader t = some n → s'.leader t = some n
  base : ∀ t, s.leader t ≠ none → s'.base t = s.base t
  ledger : ∀ t, s.ledger t <+: s'.ledger t
  stored_le : ∀ n t, s.stored n t ≤ s'.stored n t
  stored_eq : ∀ n t, t < s.term n → s'.stored n t = s.stored n t
  ballot : ∀ n t, s.vote n t = some n → s'.ballot n t = s.ballot n t

namespace State.Extends

variable {s s' s'' : State Node Entry} {t k u : ℕ}

lemma refl (s : State Node Entry) : s.Extends s where
  term_le _ := le_rfl
  commit_le _ := le_rfl
  vote _ _ _ h := h
  leader _ _ h := h
  base _ _ := rfl
  ledger _ := prefix_rfl
  stored_le _ _ := le_rfl
  stored_eq _ _ _ := rfl
  ballot _ _ _ := rfl

section

variable (h : s.Extends s')
include h

lemma leader_ne_none (ht : s.leader t ≠ none) : s'.leader t ≠ none := by
  obtain ⟨n, hn⟩ := ne_none_iff_exists'.mp ht
  rw [h.leader t n hn]
  exact some_ne_none n

lemma trans (h' : s'.Extends s'') : s.Extends s'' where
  term_le n := (h.term_le n).trans (h'.term_le n)
  commit_le n := (h.commit_le n).trans (h'.commit_le n)
  vote n t m hv := h'.vote n t m (h.vote n t m hv)
  leader t n hn := h'.leader t n (h.leader t n hn)
  base t ht := (h'.base t (h.leader_ne_none ht)).trans (h.base t ht)
  ledger t := (h.ledger t).trans (h'.ledger t)
  stored_le n t := (h.stored_le n t).trans (h'.stored_le n t)
  stored_eq n t ht :=
    (h'.stored_eq n t (ht.trans_le (h.term_le n))).trans (h.stored_eq n t ht)
  ballot n t hv := (h'.ballot n t (h.vote n t n hv)).trans (h.ballot n t hv)

/-- What a ledger starts with does not change any more. -/
theorem take_ledger (hk : k ≤ (s.ledger t).length) :
    (s'.ledger t).take k = (s.ledger t).take k := by
  obtain ⟨r, hr⟩ := h.ledger t
  rw [← hr, take_append_of_le_length hk]

lemma getElem?_ledger {i : ℕ} {e : Entry} (he : (s.ledger t)[i]? = some e) :
    (s'.ledger t)[i]? = some e := by
  obtain ⟨r, hr⟩ := h.ledger t
  obtain ⟨hi, -⟩ := List.getElem?_eq_some_iff.mp he
  rw [← hr, List.getElem?_append_left hi, he]

lemma broken (hk : k ≤ (s.ledger t).length) {u' : ℕ} (hu : u ≤ u') (hb : s.Broken t k u) :
    s'.Broken t k u' := by
  obtain ⟨t', hlt, hle, hled, hnot⟩ := hb
  refine ⟨t', hlt, hle.trans hu, h.leader_ne_none hled, ?_⟩
  rwa [h.take_ledger hk, h.base t' hled]

end

end State.Extends

namespace Protocol

variable {P : Protocol Node Entry} {s s' : State Node Entry} {t k u : ℕ}

lemma EndsAt.le_length (h : P.EndsAt s t k) : k ≤ (s.ledger t).length := by
  obtain ⟨hpos, e, he, -⟩ := h
  obtain ⟨hlt, -⟩ := List.getElem?_eq_some_iff.mp he
  omega

lemma EndsAt.mono (h : P.EndsAt s t k) (hext : s.Extends s') : P.EndsAt s' t k := by
  obtain ⟨hpos, e, he, hterm⟩ := h
  exact ⟨hpos, e, hext.getElem?_ledger he, hterm⟩

lemma EndsAt.of_extends (h : P.EndsAt s' t k) (hext : s.Extends s')
    (hk : k ≤ (s.ledger t).length) : P.EndsAt s t k := by
  obtain ⟨hpos, e, he, hterm⟩ := h
  refine ⟨hpos, e, ?_, hterm⟩
  obtain ⟨r, hr⟩ := hext.ledger t
  rwa [← hr, List.getElem?_append_left (by omega)] at he

lemma Chosen.mono (h : P.Chosen s t k) (hext : s.Extends s') : P.Chosen s' t k := by
  obtain ⟨hends, Q, hQ, hstored⟩ := h
  exact ⟨hends.mono hext, Q, hQ, fun q hq => (hstored q hq).trans (hext.stored_le q t)⟩

/-! ## Clauses that carry over -/

namespace Inv

variable (h : P.Inv s) (hext : s.Extends s')
include h hext

lemma leader_kept_of_extends {n : Node} (hled : s.leader u = some n) :
    ∃ Q, P.IsQuorum Q ∧ ∀ q ∈ Q,
      s'.vote q u = some n ∧ ∀ t k, t < u → k ≤ s'.stored q t → P.EndsAt s' t k →
        (s'.ledger t).take k <+: s'.base u ∨ s'.Broken t k (u - 1) := by
  obtain ⟨Q, hQ, hq⟩ := h.leader_kept u n hled
  refine ⟨Q, hQ, fun q hqQ => ?_⟩
  obtain ⟨hvote, hkept⟩ := hq q hqQ
  refine ⟨hext.vote q u n hvote, fun t k htu hk hends => ?_⟩
  have hterm : u ≤ s.term q := h.vote_term q u (by simp [hvote])
  -- the voter has left term `t`, so it has stored no more of it since
  rw [hext.stored_eq q t (by omega)] at hk
  have hlen : k ≤ (s.ledger t).length := hk.trans (h.stored_le q t)
  rw [hext.take_ledger hlen, hext.base u (by simp [hled])]
  rcases hkept t k htu hk (hends.of_extends hext hlen) with hpre | hbroken
  · exact .inl hpre
  · exact .inr (hext.broken hlen le_rfl hbroken)

lemma vote_kept_of_extends {n m : Node} (hled : s'.leader u = none)
    (hvote : s.vote n u = some m) (t k : ℕ) (htu : t < u) (hk : k ≤ s'.stored n t)
    (hends : P.EndsAt s' t k) : (s'.ledger t).take k <+: s'.ballot m u ∨ s'.Broken t k (u - 1) := by
  have hled' : s.leader u = none := by
    by_contra hne
    exact hext.leader_ne_none hne hled
  have hterm : u ≤ s.term n := h.vote_term n u (by simp [hvote])
  rw [hext.stored_eq n t (by omega)] at hk
  have hlen : k ≤ (s.ledger t).length := hk.trans (h.stored_le n t)
  rw [hext.take_ledger hlen, hext.ballot m u (h.vote_stood n u m hvote)]
  rcases h.vote_kept n u m hled' hvote t k htu hk (hends.of_extends hext hlen) with hpre | hb
  · exact .inl hpre
  · exact .inr (hext.broken hlen le_rfl hb)

/-- What a node has stored is still accounted for when its log keeps what it had. -/
theorem stored_kept_of_extends {n : Node} (hk : k ≤ s.stored n t)
    (hlog : (s.ledger t).take k <+: s.log n → (s.ledger t).take k <+: s'.log n ∨
      s'.Broken t k (s'.term n)) :
    (s'.ledger t).take k <+: s'.log n ∨ s'.Broken t k (s'.term n) := by
  have hlen : k ≤ (s.ledger t).length := hk.trans (h.stored_le n t)
  rw [hext.take_ledger hlen]
  rcases h.stored_kept n t k hk with hpre | hb
  · exact hlog hpre
  · exact .inr (hext.broken hlen (hext.term_le n) hb)

lemma commit_known_of_extends {n : Node} (hcommit : s'.commit n = s.commit n)
    (hlog : ∀ t k, t ≤ s.term n → P.Chosen s t k → s.commit n ≤ k →
      (s.ledger t).take (s.commit n) <+: s.log n →
      (s.ledger t).take (s.commit n) <+: s'.log n) :
    s'.commit n = 0 ∨ ∃ t k, t ≤ s'.term n ∧ P.Chosen s' t k ∧
      s'.commit n ≤ k ∧ (s'.ledger t).take (s'.commit n) <+: s'.log n := by
  rw [hcommit]
  rcases h.commit_known n with h0 | ⟨t, k, ht, hchosen, hle, hpre⟩
  · exact .inl h0
  · refine .inr ⟨t, k, ht.trans (hext.term_le n), hchosen.mono hext, hle, ?_⟩
    rw [hext.take_ledger (hle.trans hchosen.1.le_length)]
    exact hlog t k ht hchosen hle hpre

end Inv

lemma Sound.of_extends {l : List Entry} (hl : P.Sound s l) (hext : s.Extends s') : P.Sound s' l :=
  hl.mono fun e _ => hext.ledger (P.termOf e)

lemma Sound.append {l : List Entry} {e : Entry} (hl : P.Sound s l)
    (he : l ++ [e] <+: s.ledger (P.termOf e)) : P.Sound s (l ++ [e]) := by
  intro i e' he'
  rcases getElem?_concat_cases he' with hold | ⟨rfl, rfl⟩
  · obtain ⟨hi, -⟩ := List.getElem?_eq_some_iff.mp hold
    rw [take_append_of_le_length (by omega)]
    exact hl i e' hold
  · rw [take_of_length_le (by simp)]
    exact he

/-! ## Leader completeness -/

/-- No leader is elected without what a quorum has stored in an earlier term. -/
theorem Inv.chosen_prefix_base (h : P.Inv s) (hchosen : P.Chosen s t k) :
    ∀ u, t < u → s.leader u ≠ none → (s.ledger t).take k <+: s.base u := by
  intro u
  -- by induction on the later term, through a node that both stored and voted
  induction u using Nat.strong_induction_on with
  | _ u ih =>
    intro htu hled
    obtain ⟨n, hn⟩ := ne_none_iff_exists'.mp hled
    obtain ⟨hends, Q, hQ, hstored⟩ := hchosen
    obtain ⟨Q', hQ', hkept⟩ := h.leader_kept u n hn
    obtain ⟨q, hqQ, hqQ'⟩ := P.inter hQ hQ'
    rcases (hkept q hqQ').2 t k htu (hstored q hqQ) hends with hpre | hbroken
    · exact hpre
    · obtain ⟨t', htt', ht'u, hled', hnot⟩ := hbroken
      exact absurd (ih t' (by omega) htt' hled') hnot

lemma Inv.chosen_prefix_ledger (h : P.Inv s) (hchosen : P.Chosen s t k) (htu : t ≤ u)
    (hled : s.leader u ≠ none) : (s.ledger t).take k <+: s.ledger u := by
  rcases Nat.eq_or_lt_of_le htu with rfl | hlt
  · exact take_prefix k _
  · exact (h.chosen_prefix_base hchosen u hlt hled).trans (h.base_ledger u)

/-- The first election in a term decides it. -/
theorem Inv.leader_eq_of_votes (h : P.Inv s) {n m : Node} (hled : s.leader t = some n)
    {Q : Finset Node} (hQ : P.IsQuorum Q) (hvotes : ∀ q ∈ Q, s.vote q t = some m) : n = m := by
  obtain ⟨Q', hQ', hkept⟩ := h.leader_kept t n hled
  obtain ⟨q, hq, hq'⟩ := P.inter hQ hQ'
  have := (hkept q hq').1
  rw [hvotes q hq] at this
  exact (some.inj this).symm

variable {n : Node}

/-- A candidate with a quorum of votes finds its term without a leader. -/
theorem Inv.vacant_of_votes (h : P.Inv s) {Q : Finset Node} (stands : s.standing n = .candidate)
    (quorum : P.IsQuorum Q) (votes : ∀ q ∈ Q, s.vote q (s.term n) = some n) :
    s.leader (s.term n) = none := by
  by_contra hne
  obtain ⟨m, hm⟩ := ne_none_iff_exists'.mp hne
  obtain rfl := h.leader_eq_of_votes hm quorum votes
  exact (h.stands m stands).1 hm

/-- The comparison made at the vote: the candidate's log has what the voter has stored. -/
theorem Inv.prefix_of_upToDate (h : P.Inv s) {own candidate : List Entry}
    (hown : P.Sound s own) (hcand : P.Sound s candidate)
    (hterms : ∀ e ∈ candidate, P.termOf e < u) (hup : P.UpToDate candidate own)
    (hends : P.EndsAt s t k) (hpre : (s.ledger t).take k <+: own) :
    (s.ledger t).take k <+: candidate ∨ s.Broken t k (u - 1) := by
  have hlen := hends.le_length
  obtain ⟨hpos, e, he, het⟩ := hends
  have htake : ((s.ledger t).take k).length = k := by simp [hlen]
  have hownlen : k ≤ own.length := htake ▸ hpre.length_le
  have hown_ne : own ≠ [] := ne_nil_of_length_pos (by omega)
  have he_own : e ∈ own := by
    refine hpre.subset (mem_of_getElem? (i := k - 1) ?_)
    rw [List.getElem?_take_of_lt (by omega), he]
  have ht_own : t ≤ P.lastTerm own := het ▸ h.termOf_le_lastTerm hown he_own
  rcases hup with hlt | ⟨heq, hle⟩
  · -- the candidate ends in a later term: ask the leader of that term
    have hne : candidate ≠ [] := by
      rintro rfl
      simp [lastTerm] at hlt
    have hcpre := hcand.prefix_lastTerm hne
    have hled : s.leader (P.lastTerm candidate) ≠ none := by
      intro hnone
      rw [h.ledger_leader _ hnone] at hcpre
      exact hne (prefix_nil.mp hcpre)
    have hlast : P.lastTerm candidate < u := by
      have : P.lastTerm candidate = P.termOf (candidate.getLast hne) := by
        simp [lastTerm, List.getLast?_eq_some_getLast hne]
      rw [this]
      exact hterms _ (getLast_mem hne)
    by_cases hbase : (s.ledger t).take k <+: s.base (P.lastTerm candidate)
    · left
      have hledger := hbase.trans (h.base_ledger _)
      refine prefix_of_prefix_length_le hledger hcpre ?_
      -- otherwise the candidate's last entry would be one of term at most `t`
      by_contra hshort
      rw [htake, not_le] at hshort
      have hsub : candidate <+: (s.ledger t).take k :=
        prefix_of_prefix_length_le hcpre hledger (by omega)
      have hmem : candidate.getLast hne ∈ s.ledger t :=
        (take_subset k _) (hsub.subset (getLast_mem hne))
      have hle := h.ledger_terms t _ hmem
      have : P.lastTerm candidate = P.termOf (candidate.getLast hne) := by
        simp [lastTerm, List.getLast?_eq_some_getLast hne]
      omega
    · right
      exact ⟨P.lastTerm candidate, by omega, by omega, hled, hbase⟩
  · -- both end in the same term: the longer one contains the other
    left
    have hne : candidate ≠ [] := ne_nil_of_length_pos (by omega)
    have hcpre := hcand.prefix_lastTerm hne
    have hopre := hown.prefix_lastTerm hown_ne
    rw [heq] at hopre
    exact hpre.trans (prefix_of_prefix_length_le hopre hcpre hle)

/-! ## The moves -/

section Moves

variable [DecidableEq Node]

/-- Where what a node has for one term is replaced, the rest stays. -/
theorem update_update_cases {α : Type} (f : Node → ℕ → α) (n : Node) (t : ℕ) (a : α) (m : Node)
    (u : ℕ) : m = n ∧ u = t ∨ Function.update f n (Function.update (f n) t a) m u = f m u := by
  rcases eq_or_ne m n with rfl | hne
  · rcases eq_or_ne u t with rfl | hne'
    · exact .inl ⟨rfl, rfl⟩
    · simp [hne']
  · simp [hne]

lemma extends_rest (n : Node) : s.Extends (s.rest n) where
  __ := State.Extends.refl s

lemma extends_learn {c : ℕ} (grow : s.commit n ≤ c) : s.Extends (s.learn n c) where
  __ := State.Extends.refl s
  commit_le m := by
    rcases eq_or_ne m n with rfl | hne
    · simpa [State.learn] using grow
    · simp [State.learn, hne]

lemma Inv.rest (h : P.Inv s) (n : Node) : P.Inv (s.rest n) where
  __ := h
  leads m hm := by
    rcases eq_or_ne m n with rfl | hne
    · simp [State.rest] at hm
    · exact h.leads m (by simpa [State.rest, hne] using hm)
  stands m hm := by
    rcases eq_or_ne m n with rfl | hne
    · simp [State.rest] at hm
    · exact h.stands m (by simpa [State.rest, hne] using hm)

lemma Inv.learn (h : P.Inv s) {c : ℕ} (grow : s.commit n ≤ c) (past : t ≤ s.term n)
    (chosen : P.Chosen s t k) (le : c ≤ k) (pre : (s.ledger t).take c <+: s.log n) :
    P.Inv (s.learn n c) where
  __ := h
  commit_known m := by
    rcases eq_or_ne m n with rfl | hne
    · exact .inr ⟨t, k, past, chosen, by simpa [State.learn] using le,
        by simpa [State.learn] using pre⟩
    · refine h.commit_known_of_extends (extends_learn grow) ?_ fun _ _ _ _ _ hpre => hpre
      simp [State.learn, hne]

lemma extends_advance (later : s.term n < t) : s.Extends (s.advance n t) where
  __ := State.Extends.refl s
  term_le m := by
    rcases eq_or_ne m n with rfl | hne
    · simpa [State.advance] using later.le
    · simp [State.advance, hne]

lemma Inv.advance (h : P.Inv s) (later : s.term n < t) : P.Inv (s.advance n t) where
  __ := h
  log_terms m e he := (h.log_terms m e he).trans ((extends_advance later).term_le m)
  leads m hm := by
    rcases eq_or_ne m n with rfl | hne
    · simp [State.advance] at hm
    · simpa [State.advance, hne] using h.leads m (by simpa [State.advance, hne] using hm)
  stands m hm := by
    rcases eq_or_ne m n with rfl | hne
    · simp [State.advance] at hm
    · simpa [State.advance, hne] using h.stands m (by simpa [State.advance, hne] using hm)
  vote_term m u hv := (h.vote_term m u hv).trans ((extends_advance later).term_le m)
  leader_term u m hm := (h.leader_term u m hm).trans ((extends_advance later).term_le m)
  stored_term m u hm := (h.stored_term m u hm).trans ((extends_advance later).term_le m)
  stored_kept m u k hk := h.stored_kept_of_extends (extends_advance later) hk .inl
  commit_known m :=
    h.commit_known_of_extends (extends_advance later) rfl fun _ _ _ _ _ hpre => hpre

/-! ### Voting -/

lemma extends_grant {n m : Node}
    (free : s.vote n (s.term n) = none ∨ s.vote n (s.term n) = some m) :
    s.Extends (s.grant n m) where
  __ := State.Extends.refl s
  vote n' t m' hv := by
    rcases update_update_cases s.vote n (s.term n) (some m) n' t with ⟨rfl, rfl⟩ | hsame
    · rcases free with hnone | hsome
      · simp [hnone] at hv
      · simp only [State.grant, update_self]
        rw [← hv, hsome]
    · exact hsame.trans hv

/-- A vote after `grant` is an old one, or the new one. -/
theorem vote_grant_cases {n m n' m' : Node} (hv : (s.grant n m).vote n' u = some m') :
    s.vote n' u = some m' ∨ (n' = n ∧ u = s.term n ∧ m' = m) := by
  rcases update_update_cases s.vote n (s.term n) (some m) n' u with ⟨rfl, rfl⟩ | hsame
  · right
    simpa [State.grant, eq_comm] using hv
  · exact .inl (hsame.symm.trans hv)

lemma Inv.grant (h : P.Inv s) {n m : Node}
    (free : s.vote n (s.term n) = none ∨ s.vote n (s.term n) = some m)
    (stood : s.vote m (s.term n) = some m)
    (upToDate : P.UpToDate (s.ballot m (s.term n)) (s.log n)) : P.Inv (s.grant n m) where
  __ := h
  stands n' hn' := by
    obtain ⟨hled, hvote, hballot⟩ := h.stands n' hn'
    exact ⟨hled, (extends_grant free).vote _ _ _ hvote, hballot⟩
  vote_term n' u hv := by
    obtain ⟨m', hm'⟩ := ne_none_iff_exists'.mp hv
    rcases vote_grant_cases hm' with hold | ⟨rfl, rfl, -⟩
    · exact h.vote_term n' u (by simp [hold])
    · exact le_rfl
  vote_pos n' u hv := by
    obtain ⟨m', hm'⟩ := ne_none_iff_exists'.mp hv
    rcases vote_grant_cases hm' with hold | ⟨rfl, rfl, -⟩
    · exact h.vote_pos n' u (by simp [hold])
    · exact h.vote_pos m _ (by simp [stood])
  vote_stood n' u m' hv := by
    rcases vote_grant_cases hv with hold | ⟨rfl, rfl, rfl⟩
    · exact (extends_grant free).vote _ _ _ (h.vote_stood n' u m' hold)
    · exact (extends_grant free).vote _ _ _ stood
  ballot_terms n' u hv := by
    rcases vote_grant_cases hv with hold | ⟨rfl, rfl, rfl⟩
    · exact h.ballot_terms n' u hold
    · exact h.ballot_terms _ _ stood
  ballot_sound n' u hv := by
    rcases vote_grant_cases hv with hold | ⟨rfl, rfl, rfl⟩
    · exact h.ballot_sound n' u hold
    · exact h.ballot_sound _ _ stood
  vote_kept n' u m' hled hv t k htu hk hends := by
    rcases vote_grant_cases hv with hold | ⟨rfl, rfl, rfl⟩
    · exact h.vote_kept_of_extends (extends_grant free) hled hold t k htu hk hends
    · rcases h.stored_kept n' t k hk with hpre | ⟨t', htt', ht'u, hled', hnot⟩
      · exact h.prefix_of_upToDate (h.log_sound n') (h.ballot_sound m' _ stood)
          (h.ballot_terms m' _ stood) upToDate hends hpre
      · -- the current term has no leader yet, so the exception lies before it
        have hne : t' ≠ s.term n' := by
          rintro rfl
          exact hled' hled
        exact .inr ⟨t', htt', by omega, hled', hnot⟩
  leader_kept u n' hled := h.leader_kept_of_extends (extends_grant free) hled

lemma extends_stand (h : P.Inv s) (later : s.term n < t) : s.Extends (s.stand n t) where
  __ := State.Extends.refl s
  term_le m := by
    rcases eq_or_ne m n with rfl | hne
    · simpa [State.stand] using later.le
    · simp [State.stand, hne]
  vote n' u m hv := by
    rcases update_update_cases s.vote n t (some n) n' u with ⟨rfl, rfl⟩ | hsame
    · exact absurd (h.vote_term n' u (by simp [hv])) later.not_ge
    · exact hsame.trans hv
  ballot n' u hv := by
    rcases update_update_cases s.ballot n t (s.log n) n' u with ⟨rfl, rfl⟩ | hsame
    · exact absurd (h.vote_term n' u (by simp [hv])) later.not_ge
    · exact hsame

/-- A vote after `stand` is an old one, or the candidate's own. -/
theorem vote_stand_cases {n n' m : Node} (hv : (s.stand n t).vote n' u = some m) :
    s.vote n' u = some m ∨ (n' = n ∧ u = t ∧ m = n) := by
  rcases update_update_cases s.vote n t (some n) n' u with ⟨rfl, rfl⟩ | hsame
  · right
    simpa [State.stand, eq_comm] using hv
  · exact .inl (hsame.symm.trans hv)

lemma Inv.stand (h : P.Inv s) (later : s.term n < t) : P.Inv (s.stand n t) where
  __ := h
  log_terms m e he := (h.log_terms m e he).trans ((extends_stand h later).term_le m)
  leads m hm := by
    rcases eq_or_ne m n with rfl | hne
    · simp [State.stand] at hm
    · simpa [State.stand, hne] using h.leads m (by simpa [State.stand, hne] using hm)
  stands m hm := by
    rcases eq_or_ne m n with rfl | hne
    · refine ⟨fun hled => ?_, by simp [State.stand], by simp [State.stand]⟩
      have hled' : s.leader t = some m := by simpa [State.stand] using hled
      have := h.leader_term t m hled'
      omega
    · simpa [State.stand, hne] using h.stands m (by simpa [State.stand, hne] using hm)
  vote_term n' u hv := by
    obtain ⟨m, hm⟩ := ne_none_iff_exists'.mp hv
    rcases vote_stand_cases hm with hold | ⟨rfl, rfl, -⟩
    · have hle := h.vote_term n' u (by simp [hold])
      exact hle.trans ((extends_stand h later).term_le n')
    · simp [State.stand]
  vote_pos n' u hv := by
    obtain ⟨m, hm⟩ := ne_none_iff_exists'.mp hv
    rcases vote_stand_cases hm with hold | ⟨rfl, rfl, -⟩
    · exact h.vote_pos n' u (by simp [hold])
    · omega
  vote_stood n' u m hv := by
    rcases vote_stand_cases hv with hold | ⟨rfl, rfl, rfl⟩
    · exact (extends_stand h later).vote _ _ _ (h.vote_stood n' u m hold)
    · exact hv
  ballot_terms n' u hv := by
    rcases vote_stand_cases hv with hold | ⟨rfl, rfl, -⟩
    · rw [(extends_stand h later).ballot n' u hold]
      exact h.ballot_terms n' u hold
    · intro e he
      have he' : e ∈ s.log n' := by simpa [State.stand] using he
      exact (h.log_terms n' e he').trans_lt later
  ballot_sound n' u hv := by
    rcases vote_stand_cases hv with hold | ⟨rfl, rfl, -⟩
    · rw [(extends_stand h later).ballot n' u hold]
      exact h.ballot_sound n' u hold
    · have : (s.stand n' u).ballot n' u = s.log n' := by simp [State.stand]
      rw [this]
      exact h.log_sound n'
  leader_term u m hm := (h.leader_term u m hm).trans ((extends_stand h later).term_le m)
  stored_term m u hm := (h.stored_term m u hm).trans ((extends_stand h later).term_le m)
  stored_kept m u k hk := h.stored_kept_of_extends (extends_stand h later) hk .inl
  vote_kept n' u m hled hv t' k htu hk hends := by
    rcases vote_stand_cases hv with hold | ⟨rfl, rfl, rfl⟩
    · exact h.vote_kept_of_extends (extends_stand h later) hled hold t' k htu hk hends
    · have hballot : (s.stand m u).ballot m u = s.log m := by simp [State.stand]
      rw [hballot]
      rcases h.stored_kept m t' k hk with hpre | hbroken
      · exact .inl hpre
      · exact .inr ((State.Extends.refl s).broken hends.le_length (by omega) hbroken)
  leader_kept u n' hled := h.leader_kept_of_extends (extends_stand h later) hled
  commit_known m :=
    h.commit_known_of_extends (extends_stand h later) rfl fun _ _ _ _ _ hpre => hpre

/-! ### Elections and entries -/

lemma stored_win (s : State Node Entry) (n m : Node) (u : ℕ) :
    m = n ∧ u = s.term n ∨ (s.win n).stored m u = s.stored m u :=
  update_update_cases s.stored n (s.term n) (s.log n).length m u

lemma extends_win (h : P.Inv s) (vacant : s.leader (s.term n) = none) : s.Extends (s.win n) where
  __ := State.Extends.refl s
  leader u m hm := by
    have hne : u ≠ s.term n := by
      rintro rfl
      simp [vacant] at hm
    simpa [State.win, hne] using hm
  base u hu := by
    have hne : u ≠ s.term n := by
      rintro rfl
      exact hu vacant
    simp [State.win, hne]
  ledger u := by
    rcases eq_or_ne u (s.term n) with rfl | hne
    · simp [State.win, h.ledger_leader _ vacant]
    · simp [State.win, hne]
  stored_le m u := by
    rcases stored_win s n m u with ⟨rfl, rfl⟩ | hsame
    · have hle := h.stored_le m (s.term m)
      rw [h.ledger_leader _ vacant] at hle
      simp only [length_nil] at hle
      omega
    · exact hsame.ge
  stored_eq m u hu := (stored_win s n m u).resolve_left fun hown => hu.ne (hown.1 ▸ hown.2)

lemma Inv.win (h : P.Inv s) {Q : Finset Node} (stands : s.standing n = .candidate)
    (quorum : P.IsQuorum Q) (votes : ∀ q ∈ Q, s.vote q (s.term n) = some n) : P.Inv (s.win n) := by
  obtain ⟨-, -, hballot⟩ := h.stands n stands
  have vacant := h.vacant_of_votes stands quorum votes
  have hext := extends_win h vacant
  refine
    { h with
      ledger_terms := fun u => ?ledger_terms, ledger_fits := fun u => ?ledger_fits
      ledger_sound := fun u => ?ledger_sound, ledger_leader := fun u hu => ?ledger_leader
      base_ledger := fun u => ?base_ledger, stands := fun m hm => ?stands
      log_sound := fun m => (h.log_sound m).of_extends hext, leads := fun m hm => ?leads
      ballot_sound := fun m u hv => (h.ballot_sound m u hv).of_extends hext
      leader_term := fun u m hm => ?leader_term, stored_term := fun m u hm => ?stored_term
      stored_le := fun m u => ?stored_le, stored_kept := fun m u k hk => ?stored_kept
      vote_kept := fun m u m' hled hv => h.vote_kept_of_extends hext hled hv
      leader_kept := fun u m hm => ?leader_kept
      commit_known := fun m => h.commit_known_of_extends hext rfl fun _ _ _ _ _ hpre => hpre }
  case ledger_terms =>
    rcases eq_or_ne u (s.term n) with rfl | hne
    · simpa [State.win] using h.log_terms n
    · simpa [State.win, hne] using h.ledger_terms u
  case ledger_fits =>
    rcases eq_or_ne u (s.term n) with rfl | hne
    · simpa [State.win] using fun i e => h.fits (h.log_sound n) (i := i) (e := e)
    · simpa [State.win, hne] using h.ledger_fits u
  case ledger_sound =>
    rcases eq_or_ne u (s.term n) with rfl | hne
    · have : (s.win n).ledger (s.term n) = s.log n := by simp [State.win]
      exact this ▸ (h.log_sound n).of_extends hext
    · have : (s.win n).ledger u = s.ledger u := by simp [State.win, hne]
      exact this ▸ (h.ledger_sound u).of_extends hext
  case ledger_leader =>
    rcases eq_or_ne u (s.term n) with rfl | hne
    · simp [State.win] at hu
    · simpa [State.win, hne] using h.ledger_leader u (by simpa [State.win, hne] using hu)
  case base_ledger =>
    rcases eq_or_ne u (s.term n) with rfl | hne
    · simp [State.win]
    · simpa [State.win, hne] using h.base_ledger u
  case leads =>
    rcases eq_or_ne m n with rfl | hne
    · simp [State.win]
    · obtain ⟨hled, hlog⟩ := h.leads m (by simpa [State.win, hne] using hm)
      have hterm : s.term m ≠ s.term n := by
        intro heq
        simp [heq, vacant] at hled
      simpa [State.win, hterm, hne] using ⟨hled, hlog⟩
  case stands =>
    rcases eq_or_ne m n with rfl | hne
    · simp [State.win] at hm
    · obtain ⟨hled, hrest⟩ := h.stands m (by simpa [State.win, hne] using hm)
      refine ⟨?_, hrest⟩
      rcases eq_or_ne (s.term m) (s.term n) with heq | hterm
      · simpa [State.win, heq] using hne.symm
      · simpa [State.win, hterm] using hled
  case leader_term =>
    rcases eq_or_ne u (s.term n) with rfl | hne
    · obtain rfl : n = m := by simpa [State.win] using hm
      exact le_rfl
    · exact h.leader_term u m (by simpa [State.win, hne] using hm)
  case stored_term =>
    rcases stored_win s n m u with ⟨rfl, rfl⟩ | hsame
    · exact le_rfl
    · exact h.stored_term m u (hsame ▸ hm)
  case stored_le =>
    rcases stored_win s n m u with ⟨rfl, rfl⟩ | hsame
    · simp [State.win]
    · exact hsame ▸ (h.stored_le m u).trans (hext.ledger u).length_le
  case stored_kept =>
    rcases stored_win s n m u with ⟨rfl, rfl⟩ | hsame
    · left
      have : (s.win m).ledger (s.term m) = s.log m := by simp [State.win]
      exact this ▸ take_prefix k _
    · exact h.stored_kept_of_extends hext (hsame ▸ hk) .inl
  case leader_kept =>
    rcases eq_or_ne u (s.term n) with rfl | hne
    · -- the new leader: its voters answered for what they had stored
      obtain rfl : n = m := by simpa [State.win] using hm
      refine ⟨Q, quorum, fun q hq => ⟨votes q hq, fun t k ht hk hends => ?_⟩⟩
      have hterm := h.vote_term q (s.term n) (by simp [votes q hq])
      rw [hext.stored_eq q t (by omega)] at hk
      have hlen : k ≤ (s.ledger t).length := hk.trans (h.stored_le q t)
      have hbase : (s.win n).base (s.term n) = s.ballot n (s.term n) := by
        simp [State.win, hballot]
      rw [hext.take_ledger hlen, hbase]
      rcases h.vote_kept q (s.term n) n vacant (votes q hq) t k ht hk
        (hends.of_extends hext hlen) with hpre | hb
      · exact .inl hpre
      · exact .inr (hext.broken hlen le_rfl hb)
    · exact h.leader_kept_of_extends hext (by simpa [State.win, hne] using hm)

lemma stored_propose (s : State Node Entry) (e : Entry) (n m : Node) (u : ℕ) :
    m = n ∧ u = s.term n ∨ (s.propose n e).stored m u = s.stored m u :=
  update_update_cases s.stored n (s.term n) ((s.log n).length + 1) m u

lemma extends_propose (h : P.Inv s) {e : Entry} (leads : s.standing n = .leader) :
    s.Extends (s.propose n e) where
  __ := State.Extends.refl s
  ledger u := by
    rcases eq_or_ne u (s.term n) with rfl | hne
    · simp [State.propose, (h.leads n leads).2.1]
    · simp [State.propose, hne]
  stored_le m u := by
    rcases stored_propose s e n m u with ⟨rfl, rfl⟩ | hsame
    · have hle := h.stored_le m (s.term m)
      rw [← (h.leads m leads).2.1] at hle
      simp only [State.propose, update_self]
      omega
    · exact hsame.ge
  stored_eq m u hu := (stored_propose s e n m u).resolve_left fun hown => hu.ne (hown.1 ▸ hown.2)

lemma Inv.propose (h : P.Inv s) {e : Entry} (leads : s.standing n = .leader)
    (termOf_eq : P.termOf e = s.term n) (fits : P.Fits (s.log n).length e) :
    P.Inv (s.propose n e) := by
  obtain ⟨hled, hlog, -⟩ := h.leads n leads
  have hext := extends_propose h (e := e) leads
  have hledger : (s.propose n e).ledger (s.term n) = s.log n ++ [e] := by simp [State.propose]
  have hlog' : (s.propose n e).log n = s.log n ++ [e] := by simp [State.propose]
  have hsound : P.Sound (s.propose n e) (s.log n ++ [e]) :=
    ((h.log_sound n).of_extends hext).append (by rw [termOf_eq, hledger])
  have hgrow : ∀ m, s.log m <+: (s.propose n e).log m := by
    intro m
    rcases eq_or_ne m n with rfl | hne
    · simp [hlog']
    · simp [State.propose, hne]
  refine
    { h with
      ledger_terms := fun u => ?ledger_terms, ledger_fits := fun u => ?ledger_fits
      ledger_sound := fun u => ?ledger_sound, ledger_leader := fun u hu => ?ledger_leader
      base_ledger := fun u => (h.base_ledger u).trans (hext.ledger u)
      log_terms := fun m => ?log_terms, log_sound := fun m => ?log_sound
      leads := fun m hm => ?leads, stands := fun m hm => ?stands
      stored_term := fun m u hm => ?stored_term
      ballot_sound := fun m u hv => (h.ballot_sound m u hv).of_extends hext
      stored_le := fun m u => ?stored_le, stored_kept := fun m u k hk => ?stored_kept
      vote_kept := fun m u m' hled hv => h.vote_kept_of_extends hext hled hv
      leader_kept := fun u m hm => h.leader_kept_of_extends hext hm
      commit_known := fun m => h.commit_known_of_extends hext rfl
        fun _ _ _ _ _ hpre => hpre.trans (hgrow m) }
  case ledger_terms =>
    rcases eq_or_ne u (s.term n) with rfl | hne
    · rw [hledger, hlog]
      simpa [or_imp, forall_and, termOf_eq] using h.ledger_terms (s.term n)
    · simpa [State.propose, hne] using h.ledger_terms u
  case ledger_fits =>
    rcases eq_or_ne u (s.term n) with rfl | hne
    · intro i e' he'
      rw [hledger] at he'
      rcases getElem?_concat_cases he' with hold | ⟨rfl, rfl⟩
      · exact h.fits (h.log_sound n) hold
      · exact fits
    · simpa [State.propose, hne] using h.ledger_fits u
  case ledger_sound =>
    rcases eq_or_ne u (s.term n) with rfl | hne
    · rwa [hledger]
    · have : (s.propose n e).ledger u = s.ledger u := by simp [State.propose, hne]
      exact this ▸ (h.ledger_sound u).of_extends hext
  case ledger_leader =>
    rcases eq_or_ne u (s.term n) with rfl | hne
    · exact absurd (hled.symm.trans hu) (some_ne_none n)
    · simpa [State.propose, hne] using h.ledger_leader u hu
  case log_terms =>
    rcases eq_or_ne m n with rfl | hne
    · rw [hlog']
      simpa [or_imp, forall_and, State.propose, termOf_eq] using h.log_terms m
    · simpa [State.propose, hne] using h.log_terms m
  case log_sound =>
    rcases eq_or_ne m n with rfl | hne
    · rwa [hlog']
    · have : (s.propose n e).log m = s.log m := by simp [State.propose, hne]
      exact this ▸ (h.log_sound m).of_extends hext
  case leads =>
    rcases eq_or_ne m n with rfl | hne
    · exact ⟨hled, hlog'.trans hledger.symm, by simp [State.propose]⟩
    · obtain ⟨hled', hlogm⟩ := h.leads m hm
      have hterm : s.term m ≠ s.term n := by
        intro heq
        rw [heq, hled] at hled'
        exact hne (some.inj hled').symm
      refine ⟨hled', ?_⟩
      simpa [State.propose, hne, hterm] using hlogm
  case stands =>
    rcases eq_or_ne m n with rfl | hne
    · simp [State.propose, leads] at hm
    · simpa [State.propose, hne] using h.stands m hm
  case stored_term =>
    rcases stored_propose s e n m u with ⟨rfl, rfl⟩ | hsame
    · exact le_rfl
    · exact h.stored_term m u (hsame ▸ hm)
  case stored_le =>
    rcases stored_propose s e n m u with ⟨rfl, rfl⟩ | hsame
    · simp [State.propose]
    · exact hsame ▸ (h.stored_le m u).trans (hext.ledger u).length_le
  case stored_kept =>
    rcases stored_propose s e n m u with ⟨rfl, rfl⟩ | hsame
    · left
      rw [hledger, hlog']
      exact take_prefix k _
    · exact h.stored_kept_of_extends hext (hsame ▸ hk) fun hpre => .inl (hpre.trans (hgrow m))

lemma stored_store [DecidableEq Entry] (s : State Node Entry) (k : ℕ) (n m : Node) (u : ℕ) :
    m = n ∧ u = s.term n ∨ (s.store n k).stored m u = s.stored m u :=
  update_update_cases s.stored n (s.term n) (max (s.stored n (s.term n)) k) m u

lemma extends_store [DecidableEq Entry] (n : Node) (k : ℕ) : s.Extends (s.store n k) where
  __ := State.Extends.refl s
  stored_le m u := by
    rcases stored_store s k n m u with ⟨rfl, rfl⟩ | hsame
    · simp [State.store]
    · exact hsame.ge
  stored_eq m u hu := (stored_store s k n m u).resolve_left fun hown => hu.ne (hown.1 ▸ hown.2)

/-- A prefix of the current ledger survives the overlay made by `store`. -/
theorem prefix_log_store [DecidableEq Entry] {p : List Entry} (hlog : p <+: s.log n)
    (hledger : p <+: s.ledger (s.term n)) : p <+: (s.store n k).log n := by
  simp only [State.store, update_self]
  exact IsPrefix.overlay_of_comparable hlog
    (List.prefix_or_prefix_of_prefix hledger (List.take_prefix k _))

lemma Inv.store [DecidableEq Entry] (h : P.Inv s) (led : s.leader (s.term n) ≠ none)
    (le : k ≤ (s.ledger (s.term n)).length) : P.Inv (s.store n k) where
  __ := h
  log_terms m e he := by
    rcases eq_or_ne m n with rfl | hne
    · simp only [State.store, update_self, overlay] at he
      split at he
      · exact h.log_terms m e he
      · exact h.ledger_terms _ e (take_subset k _ he)
    · exact h.log_terms m e (by simpa [State.store, hne] using he)
  log_sound m := by
    rcases eq_or_ne m n with rfl | hne
    · have : (s.store m k).log m = overlay (s.log m) ((s.ledger (s.term m)).take k) := by
        simp [State.store]
      exact this ▸ (h.log_sound m).overlay ((h.ledger_sound _).of_isPrefix (List.take_prefix k _))
    · have : (s.store n k).log m = s.log m := by simp [State.store, hne]
      exact this ▸ h.log_sound m
  leads m hm := by
    rcases eq_or_ne m n with rfl | hne
    · simp [State.store] at hm
    · simpa [State.store, hne] using h.leads m (by simpa [State.store, hne] using hm)
  stands m hm := by
    rcases eq_or_ne m n with rfl | hne
    · simp [State.store] at hm
    · simpa [State.store, hne] using h.stands m (by simpa [State.store, hne] using hm)
  stored_term m u hm := by
    rcases stored_store s k n m u with ⟨rfl, rfl⟩ | hsame
    · exact le_rfl
    · exact h.stored_term m u (hsame ▸ hm)
  stored_le m u := by
    rcases stored_store s k n m u with ⟨rfl, rfl⟩ | hsame
    · simpa [State.store] using ⟨h.stored_le m (s.term m), le⟩
    · exact hsame ▸ h.stored_le m u
  stored_kept m u j hj := by
    rcases stored_store s k n m u with ⟨rfl, rfl⟩ | hsame
    · left
      rcases Nat.lt_or_ge k j with hkj | hjk
      · have hj' : j ≤ s.stored m (s.term m) := by
          have : j ≤ max (s.stored m (s.term m)) k := by simpa [State.store] using hj
          omega
        rcases h.stored_kept m (s.term m) j hj' with hpre | ⟨t', hlt, hle, -⟩
        · exact prefix_log_store hpre (List.take_prefix j _)
        · omega
      · have hover := prefix_overlay (s.log m) ((s.ledger (s.term m)).take k)
        refine (take_prefix_take_left hjk).trans ?_
        simpa [State.store] using hover
    · rw [hsame] at hj
      refine h.stored_kept_of_extends (extends_store n k) hj fun hpre => ?_
      rcases eq_or_ne m n with rfl | hne
      · by_cases hledger : (s.ledger u).take j <+: s.ledger (s.term m)
        · exact .inl (prefix_log_store hpre hledger)
        · -- the entries are not of this term, and its leader was elected without them
          have hterm : u ≠ s.term m := by
            rintro rfl
            exact hledger (List.take_prefix j _)
          have hpos : j ≠ 0 := by
            rintro rfl
            simp at hledger
          have hu := h.stored_term m u (by omega)
          exact .inr ⟨s.term m, by omega, le_rfl, led,
            fun hbase => hledger (hbase.trans (h.base_ledger _))⟩
      · exact .inl (by simpa [State.store, hne] using hpre)
  vote_kept m u m' hled hv := h.vote_kept_of_extends (extends_store n k) hled hv
  leader_kept u m hm := h.leader_kept_of_extends (extends_store n k) hm
  commit_known m := by
    refine h.commit_known_of_extends (extends_store n k) rfl fun t j ht hchosen hle hpre => ?_
    rcases eq_or_ne m n with rfl | hne
    · refine prefix_log_store hpre ?_
      exact (take_prefix_take_left hle).trans (h.chosen_prefix_ledger hchosen ht led)
    · simpa [State.store, hne] using hpre

end Moves

end Protocol

end InferLab.Consensus
