import Mathlib.Data.Finset.Card
import Mathlib.Data.Fintype.Card
import Mathlib.Data.List.Infix
import Mathlib.Logic.Relation

/-!
# Replicated logs under elected leaders

An abstract protocol in which nodes vote once per term, a quorum of votes makes a
leader, and only the leader of a term adds entries of that term. There are no messages:
a step is guarded by what has *happened*, so that any network that delivers only true
reports of the past refines it.

Next to the registers of the nodes the state keeps its history, which only grows:

* `leader t`, who won term `t`, and `base t`, the log it won with;
* `ledger t`, the log of that leader at its longest;
* `stored n t`, how much of `ledger t` the node `n` has stored while in term `t`;
* `ballot n t`, the log `n` campaigned with in term `t`.
-/

namespace InferLab.Consensus

open Finset

/-- What a node is doing in its current term. -/
inductive Standing
  | follower
  | candidate
  | leader
deriving DecidableEq, Repr

/-- The nodes' registers together with the history of the run. -/
structure State (Node Entry : Type) where
  term : Node → ℕ
  vote : Node → ℕ → Option Node
  log : Node → List Entry
  commit : Node → ℕ
  standing : Node → Standing
  leader : ℕ → Option Node
  base : ℕ → List Entry
  ledger : ℕ → List Entry
  stored : Node → ℕ → ℕ
  ballot : Node → ℕ → List Entry

/-- The parameters of the protocol: the term an entry was made in, the entries that may
stand at a place of a log, and a family of quorums any two of which meet. -/
structure Protocol (Node Entry : Type) where
  termOf : Entry → ℕ
  Fits : ℕ → Entry → Prop
  IsQuorum : Finset Node → Prop
  inter : ∀ {Q Q' : Finset Node}, IsQuorum Q → IsQuorum Q' → ∃ n ∈ Q, n ∈ Q'

/-- Two sets of more than half of the nodes meet. -/
theorem exists_mem_of_majority {Node : Type} [Fintype Node] [DecidableEq Node]
    {Q Q' : Finset Node} (hQ : Fintype.card Node / 2 + 1 ≤ Q.card)
    (hQ' : Fintype.card Node / 2 + 1 ≤ Q'.card) : ∃ n ∈ Q, n ∈ Q' := by
  by_contra hnone
  push Not at hnone
  have hdisj : Disjoint Q Q' := disjoint_left.mpr hnone
  have hcard : (Q ∪ Q').card = Q.card + Q'.card := card_union_of_disjoint hdisj
  have hle : (Q ∪ Q').card ≤ Fintype.card Node := card_le_univ _
  omega

/-- The protocol whose quorums are the sets of more than half of the nodes. -/
def Protocol.majority {Node Entry : Type} [Fintype Node] [DecidableEq Node]
    (termOf : Entry → ℕ) (Fits : ℕ → Entry → Prop) : Protocol Node Entry where
  termOf := termOf
  Fits := Fits
  IsQuorum Q := Fintype.card Node / 2 + 1 ≤ Q.card
  inter := exists_mem_of_majority

/-- `source` laid over `old`: nothing changes when `old` already starts with `source`. -/
def overlay {Entry : Type} [DecidableEq Entry] (old source : List Entry) : List Entry :=
  if source <+: old then old else source

/-! ## The moves of a node

Each changes the registers of one node `n` and adds to the history. -/

namespace State

variable {Node Entry : Type} [DecidableEq Node] (s : State Node Entry) (n : Node)

/-- `n` moves to the term `t` and follows. -/
def advance (t : ℕ) : State Node Entry :=
  { s with
    term := Function.update s.term n t
    standing := Function.update s.standing n .follower }

/-- `n` campaigns in the term `t` with its current log, voting for itself. -/
def stand (t : ℕ) : State Node Entry :=
  { s with
    term := Function.update s.term n t
    standing := Function.update s.standing n .candidate
    vote := Function.update s.vote n (Function.update (s.vote n) t (some n))
    ballot := Function.update s.ballot n (Function.update (s.ballot n) t (s.log n)) }

/-- `n` votes for `m` in its current term. -/
def grant (m : Node) : State Node Entry :=
  { s with vote := Function.update s.vote n (Function.update (s.vote n) (s.term n) (some m)) }

/-- `n` becomes the leader of its current term. -/
def win : State Node Entry :=
  { s with
    standing := Function.update s.standing n .leader
    leader := Function.update s.leader (s.term n) (some n)
    base := Function.update s.base (s.term n) (s.log n)
    ledger := Function.update s.ledger (s.term n) (s.log n)
    stored := Function.update s.stored n
      (Function.update (s.stored n) (s.term n) (s.log n).length) }

/-- The leader `n` adds the entry `e` to its log. -/
def propose (e : Entry) : State Node Entry :=
  { s with
    log := Function.update s.log n (s.log n ++ [e])
    ledger := Function.update s.ledger (s.term n) (s.log n ++ [e])
    stored := Function.update s.stored n
      (Function.update (s.stored n) (s.term n) ((s.log n).length + 1)) }

/-- `n` stores the first `k` entries of its current term's ledger, and follows. -/
def store [DecidableEq Entry] (k : ℕ) : State Node Entry :=
  { s with
    standing := Function.update s.standing n .follower
    log := Function.update s.log n (overlay (s.log n) ((s.ledger (s.term n)).take k))
    stored := Function.update s.stored n
      (Function.update (s.stored n) (s.term n) (max (s.stored n (s.term n)) k)) }

/-- `n` learns that its first `c` entries are committed. -/
def learn (c : ℕ) : State Node Entry :=
  { s with commit := Function.update s.commit n c }

/-- `n` stops campaigning or leading, as it does when it restarts. -/
def rest : State Node Entry :=
  { s with standing := Function.update s.standing n .follower }

end State

namespace Protocol

variable {Node Entry : Type} (P : Protocol Node Entry)

/-- The term of the last entry, `0` for an empty log. -/
def lastTerm (l : List Entry) : ℕ := (l.getLast?.map P.termOf).getD 0

/-- The comparison a voter makes: `candidate` is at least as up to date as `own`. -/
def UpToDate (candidate own : List Entry) : Prop :=
  P.lastTerm own < P.lastTerm candidate ∨
    (P.lastTerm own = P.lastTerm candidate ∧ own.length ≤ candidate.length)

/-- The first `k` entries of the ledger of term `t` end with an entry of that term. -/
def EndsAt (s : State Node Entry) (t k : ℕ) : Prop :=
  0 < k ∧ ∃ e, (s.ledger t)[k - 1]? = some e ∧ P.termOf e = t

/-- A quorum has stored the first `k` entries of term `t`'s ledger, the last of them made
in term `t`. -/
def Chosen (s : State Node Entry) (t k : ℕ) : Prop :=
  P.EndsAt s t k ∧ ∃ Q, P.IsQuorum Q ∧ ∀ q ∈ Q, k ≤ s.stored q t

/-- One move of the node `n`. -/
inductive Step [DecidableEq Node] [DecidableEq Entry] (n : Node) :
    State Node Entry → State Node Entry → Prop
  | advance (s t) (later : s.term n < t) : Step n s (s.advance n t)
  | stand (s t) (later : s.term n < t) : Step n s (s.stand n t)
  | grant (s m) (free : s.vote n (s.term n) = none ∨ s.vote n (s.term n) = some m)
      (stood : s.vote m (s.term n) = some m)
      (upToDate : P.UpToDate (s.ballot m (s.term n)) (s.log n)) : Step n s (s.grant n m)
  | win (s) (Q : Finset Node) (stands : s.standing n = .candidate) (quorum : P.IsQuorum Q)
      (votes : ∀ q ∈ Q, s.vote q (s.term n) = some n) : Step n s (s.win n)
  | propose (s e) (leads : s.standing n = .leader) (termOf_eq : P.termOf e = s.term n)
      (fits : P.Fits (s.log n).length e) : Step n s (s.propose n e)
  | store (s k) (led : s.leader (s.term n) ≠ none)
      (le : k ≤ (s.ledger (s.term n)).length) : Step n s (s.store n k)
  | learn (s c t k) (grow : s.commit n ≤ c) (past : t ≤ s.term n) (chosen : P.Chosen s t k)
      (le : c ≤ k) (pre : (s.ledger t).take c <+: s.log n) : Step n s (s.learn n c)
  | rest (s) : Step n s (s.rest n)

/-- The start: every node in term `0` with an empty log, and no history. -/
def init : State Node Entry where
  term _ := 0
  vote _ _ := none
  log _ := []
  commit _ := 0
  standing _ := .follower
  leader _ := none
  base _ := []
  ledger _ := []
  stored _ _ := 0
  ballot _ _ := []

end Protocol

end InferLab.Consensus
