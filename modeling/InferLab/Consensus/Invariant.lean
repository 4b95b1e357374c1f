import InferLab.Consensus.Protocol

/-!
# The invariant of the protocol

`Inv` collects what holds in every reachable state. Three of its clauses carry the safety
argument; each says of the first `k` entries of term `t`'s ledger, once a node has stored
them in term `t`, where they still are:

* `stored_kept`: in the node's log, unless a later leader was elected without them;
* `vote_kept`: in the log the node has since voted for, with the same exception;
* `leader_kept`: in the log a later leader was elected with, when the node was among its
  voters.

The exception is `Broken`. That no leader is ever elected without entries a quorum has
stored is then an induction on terms, made in `InferLab.Consensus.Safety`.
-/

namespace InferLab.Consensus

open List

/-! ## Prefixes and overlays -/

section Overlay

variable {Entry : Type} [DecidableEq Entry] {p old source : List Entry}

lemma prefix_overlay (old source : List Entry) : source <+: overlay old source := by
  unfold overlay
  split
  · assumption
  · exact prefix_rfl

/-- What `old` starts with survives an overlay by a source it is comparable with. -/
theorem IsPrefix.overlay_of_comparable (hp : p <+: old) (hcmp : p <+: source ∨ source <+: p) :
    p <+: overlay old source := by
  unfold overlay
  split
  · exact hp
  · rename_i hnot
    rcases hcmp with h | h
    · exact h
    · exact absurd (h.trans hp) hnot

lemma length_le_overlay (old source : List Entry) : source.length ≤ (overlay old source).length :=
  (prefix_overlay old source).length_le

end Overlay

section Agreement

variable {Entry : Type} [DecidableEq Entry]

/-- The length of the longest prefix on which two logs agree. -/
def agreement : List Entry → List Entry → ℕ
  | e :: l, e' :: l' => if e = e' then agreement l l' + 1 else 0
  | _, _ => 0

lemma le_agreement_iff {k : ℕ} {l l' : List Entry} :
    k ≤ agreement l l' ↔ k ≤ l.length ∧ l.take k <+: l' := by
  induction l generalizing k l' with
  | nil => simp [agreement]
  | cons e l ih =>
    cases k with
    | zero => simp
    | succ k =>
      cases l' with
      | nil => simp [agreement]
      | cons e' l' =>
        by_cases heq : e = e'
        · simp [agreement, heq, cons_prefix_cons, ih]
        · simp [agreement, heq, cons_prefix_cons]

end Agreement

/-- An entry of a log with one more entry is an old one, or the new one at the end. -/
theorem getElem?_concat_cases {Entry : Type} {l : List Entry} {e e' : Entry} {i : ℕ}
    (h : (l ++ [e])[i]? = some e') : l[i]? = some e' ∨ (i = l.length ∧ e = e') := by
  rcases Nat.lt_or_ge i l.length with hlt | hge
  · left
    rwa [List.getElem?_append_left hlt] at h
  · right
    obtain ⟨hi, -⟩ := List.getElem?_eq_some_iff.mp h
    obtain rfl : i = l.length := by
      simp only [length_append, length_singleton] at hi
      omega
    exact ⟨rfl, by simpa using h⟩

/-- Some leader of a term in `(t, u]` was elected without the first `k` entries of term
`t`'s ledger. -/
def State.Broken {Node Entry : Type} (s : State Node Entry) (t k u : ℕ) : Prop :=
  ∃ t', t < t' ∧ t' ≤ u ∧ s.leader t' ≠ none ∧ ¬ (s.ledger t).take k <+: s.base t'

namespace Protocol

variable {Node Entry : Type} (P : Protocol Node Entry)

/-- Every entry of `l` stands where the leader of its term put it, on the same prefix. -/
def Sound (s : State Node Entry) (l : List Entry) : Prop :=
  ∀ i e, l[i]? = some e → l.take (i + 1) <+: s.ledger (P.termOf e)

/-- What holds in every reachable state. -/
structure Inv (s : State Node Entry) : Prop where
  ledger_terms : ∀ t, ∀ e ∈ s.ledger t, P.termOf e ≤ t
  ledger_fits : ∀ t i e, (s.ledger t)[i]? = some e → P.Fits i e
  ledger_sound : ∀ t, P.Sound s (s.ledger t)
  ledger_leader : ∀ t, s.leader t = none → s.ledger t = []
  base_ledger : ∀ t, s.base t <+: s.ledger t
  log_terms : ∀ n, ∀ e ∈ s.log n, P.termOf e ≤ s.term n
  log_sound : ∀ n, P.Sound s (s.log n)
  leads : ∀ n, s.standing n = .leader →
    s.leader (s.term n) = some n ∧ s.log n = s.ledger (s.term n) ∧
      s.stored n (s.term n) = (s.log n).length
  stands : ∀ n, s.standing n = .candidate →
    s.leader (s.term n) ≠ some n ∧ s.vote n (s.term n) = some n ∧
      s.ballot n (s.term n) = s.log n
  vote_term : ∀ n t, s.vote n t ≠ none → t ≤ s.term n
  vote_pos : ∀ n t, s.vote n t ≠ none → 0 < t
  vote_stood : ∀ n t m, s.vote n t = some m → s.vote m t = some m
  ballot_terms : ∀ n t, s.vote n t = some n → ∀ e ∈ s.ballot n t, P.termOf e < t
  ballot_sound : ∀ n t, s.vote n t = some n → P.Sound s (s.ballot n t)
  leader_term : ∀ t n, s.leader t = some n → t ≤ s.term n
  stored_term : ∀ n t, 0 < s.stored n t → t ≤ s.term n
  stored_le : ∀ n t, s.stored n t ≤ (s.ledger t).length
  stored_kept : ∀ n t k, k ≤ s.stored n t →
    (s.ledger t).take k <+: s.log n ∨ s.Broken t k (s.term n)
  vote_kept : ∀ n u m, s.leader u = none → s.vote n u = some m →
    ∀ t k, t < u → k ≤ s.stored n t → P.EndsAt s t k →
      (s.ledger t).take k <+: s.ballot m u ∨ s.Broken t k (u - 1)
  leader_kept : ∀ u n, s.leader u = some n → ∃ Q, P.IsQuorum Q ∧ ∀ q ∈ Q,
    s.vote q u = some n ∧ ∀ t k, t < u → k ≤ s.stored q t → P.EndsAt s t k →
      (s.ledger t).take k <+: s.base u ∨ s.Broken t k (u - 1)
  commit_known : ∀ n, s.commit n = 0 ∨ ∃ t k, t ≤ s.term n ∧ P.Chosen s t k ∧
    s.commit n ≤ k ∧ (s.ledger t).take (s.commit n) <+: s.log n

variable {P} {s : State Node Entry} {l l' : List Entry}

/-! ## Soundness of logs -/

section

variable (h : P.Sound s l)
include h

lemma Sound.of_isPrefix (hp : l' <+: l) : P.Sound s l' := by
  intro i e he
  obtain ⟨hi, -⟩ := List.getElem?_eq_some_iff.mp he
  have hle : l[i]? = some e := by
    obtain ⟨r, rfl⟩ := hp
    rwa [List.getElem?_append_left hi]
  have htake : l'.take (i + 1) = l.take (i + 1) := by
    obtain ⟨r, rfl⟩ := hp
    rw [take_append_of_le_length (by omega)]
  rw [htake]
  exact h i e hle

lemma Sound.overlay [DecidableEq Entry] (h' : P.Sound s l') : P.Sound s (overlay l l') := by
  unfold Consensus.overlay
  split
  · exact h
  · exact h'

/-- Ledgers that have only grown leave sound logs sound. -/
theorem Sound.mono {s' : State Node Entry}
    (hgrow : ∀ e ∈ l, s.ledger (P.termOf e) <+: s'.ledger (P.termOf e)) : P.Sound s' l := by
  intro i e he
  exact (h i e he).trans (hgrow e (mem_of_getElem? he))

/-- A nonempty sound log is the start of the ledger of its last term. -/
theorem Sound.prefix_lastTerm (hne : l ≠ []) : l <+: s.ledger (P.lastTerm l) := by
  have hlast : l[l.length - 1]? = some (l.getLast hne) := by
    rw [List.getElem?_eq_some_iff]
    have hpos := length_pos_iff.mpr hne
    exact ⟨by omega, (getLast_eq_getElem hne).symm⟩
  have hpos := length_pos_iff.mpr hne
  have hterm : P.lastTerm l = P.termOf (l.getLast hne) := by
    simp [lastTerm, List.getLast?_eq_some_getLast hne]
  have := h _ _ hlast
  rwa [Nat.sub_add_cancel hpos, take_length, ← hterm] at this

/-- Two sound logs with entries of one term at one place agree up to there. -/
theorem Sound.take_eq_take (h' : P.Sound s l') {i : ℕ} {e e' : Entry} (he : l[i]? = some e)
    (he' : l'[i]? = some e') (hterm : P.termOf e = P.termOf e') :
    l.take (i + 1) = l'.take (i + 1) := by
  obtain ⟨hi, -⟩ := List.getElem?_eq_some_iff.mp he
  obtain ⟨hi', -⟩ := List.getElem?_eq_some_iff.mp he'
  have hp := h i e he
  have hp' := h' i e' he'
  rw [← hterm] at hp'
  have hle : (l.take (i + 1)).length = (l'.take (i + 1)).length := by
    simp only [length_take]
    omega
  exact (prefix_of_prefix_length_le hp hp' hle.le).eq_of_length hle

/-- An entry of a sound log is in the ledger of its term, at the same place. -/
theorem Sound.getElem?_ledger {i : ℕ} {e : Entry} (he : l[i]? = some e) :
    (s.ledger (P.termOf e))[i]? = some e := by
  obtain ⟨r, hr⟩ := h i e he
  obtain ⟨hi, -⟩ := List.getElem?_eq_some_iff.mp he
  rw [← hr, List.getElem?_append_left (by simp only [length_take]; omega)]
  simpa using he

end

/-- The entries of a sound log are of no later term than its last one. -/
theorem Inv.termOf_le_lastTerm (h : P.Inv s) (hl : P.Sound s l) {e : Entry} (he : e ∈ l) :
    P.termOf e ≤ P.lastTerm l := by
  have hpre := hl.prefix_lastTerm (ne_nil_of_mem he)
  exact h.ledger_terms _ e (hpre.subset he)

/-- The entries of a sound log fit where they stand. -/
theorem Inv.fits (h : P.Inv s) (hl : P.Sound s l) {i : ℕ} {e : Entry} (he : l[i]? = some e) :
    P.Fits i e :=
  h.ledger_fits _ i e (hl.getElem?_ledger he)

/-- Terms with a leader are positive. -/
theorem Inv.leader_pos (h : P.Inv s) {t : ℕ} (hled : s.leader t ≠ none) : 0 < t := by
  obtain ⟨n, hn⟩ := Option.ne_none_iff_exists'.mp hled
  obtain ⟨Q, hQ, hkept⟩ := h.leader_kept t n hn
  obtain ⟨q, hq, -⟩ := P.inter hQ hQ
  refine h.vote_pos q t ?_
  rw [(hkept q hq).1]
  exact Option.some_ne_none n

end Protocol

end InferLab.Consensus
