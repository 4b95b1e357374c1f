import Mathlib.Data.Nat.Notation
import Mathlib.Data.String.Basic

/-!
# Self-delimiting encodings

What a `Codec` has put in front of other bytes it gets back, and leaves the other bytes. Codecs
of records are put together from those of their fields.
-/

namespace InferLab

open List

/-- Values that are read back as written, whatever follows. -/
structure Codec (α : Type) where
  put : α → List UInt8
  get : List UInt8 → Option (α × List UInt8)
  get_put : ∀ a rest, get (put a ++ rest) = some (a, rest)

namespace Codec

variable {α β : Type}

/-- The encoding of another type that embeds into `α`. -/
def map (c : Codec α) (f : β → α) (g : α → β) (h : ∀ b, g (f b) = b) : Codec β where
  put b := c.put (f b)
  get bytes := (c.get bytes).map fun (a, rest) => (g a, rest)
  get_put b rest := by simp [c.get_put, h]

def pair (c : Codec α) (d : Codec β) : Codec (α × β) where
  put p := c.put p.1 ++ d.put p.2
  get bytes := do
    let (a, rest) ← c.get bytes
    let (b, rest) ← d.get rest
    some ((a, b), rest)
  get_put p rest := by simp [append_assoc, c.get_put, d.get_put]

/-! ## Lists -/

/-- Every element has a one before it, and a zero ends the list. -/
def putList (c : Codec α) : List α → List UInt8
  | [] => [0]
  | a :: l => 1 :: (c.put a ++ putList c l)

/-- Reads a list of less than `fuel` elements. -/
def getList (c : Codec α) : ℕ → List UInt8 → Option (List α × List UInt8)
  | _ + 1, 0 :: rest => some ([], rest)
  | fuel + 1, 1 :: rest => do
    let (a, rest) ← c.get rest
    let (l, rest) ← getList c fuel rest
    some (a :: l, rest)
  | _, _ => none

lemma length_lt_length_putList (c : Codec α) (l : List α) : l.length < (putList c l).length := by
  induction l with
  | nil => exact Nat.one_pos
  | cons a l ih =>
    simp only [putList, length_cons, length_append]
    omega

lemma getList_putList (c : Codec α) (l : List α) (rest : List UInt8) {fuel : ℕ}
    (hfuel : l.length < fuel) : getList c fuel (putList c l ++ rest) = some (l, rest) := by
  induction l generalizing fuel with
  | nil =>
    cases fuel with
    | zero => omega
    | succ fuel => rfl
  | cons a l ih =>
    cases fuel with
    | zero => omega
    | succ fuel =>
      have hlt : l.length < fuel := by
        simp only [length_cons] at hfuel
        omega
      simp [putList, getList, append_assoc, c.get_put, ih hlt]

def list (c : Codec α) : Codec (List α) where
  put := putList c
  get bytes := getList c bytes.length bytes
  get_put l rest := by
    apply getList_putList
    rw [length_append]
    exact Nat.lt_add_right _ (length_lt_length_putList c l)

/-- At most one element. -/
def option (c : Codec α) : Codec (Option α) :=
  (list c).map Option.toList List.head? fun a => by cases a <;> rfl

/-! ## Numbers and texts -/

def byte : Codec UInt8 where
  put b := [b]
  get
    | b :: rest => some (b, rest)
    | [] => none
  get_put _ _ := rfl

def bool : Codec Bool :=
  byte.map (fun b => if b then 1 else 0) (· == 1) fun b => by cases b <;> rfl

/-- Eight bytes, the lowest first. -/
def u64 : Codec UInt64 where
  put x := (List.range 8).map fun i => UInt8.ofNat (x.toNat / 256 ^ i)
  get
    | a :: b :: c :: d :: e :: f :: g :: h :: rest =>
      some (UInt64.ofNat (a.toNat + 256 * (b.toNat + 256 * (c.toNat + 256 * (d.toNat + 256 *
        (e.toNat + 256 * (f.toNat + 256 * (g.toNat + 256 * h.toNat))))))), rest)
    | _ => none
  get_put x rest := by
    have hx : x.toNat < 2 ^ 64 := x.toNat_lt
    simp only [List.range, List.range.loop, map_cons, map_nil, cons_append,
      nil_append, UInt8.toNat_ofNat']
    congr 2
    apply UInt64.toNat_inj.mp
    rw [UInt64.toNat_ofNat']
    omega

def char : Codec Char where
  put c := if c.toNat < 128 then [UInt8.ofNat c.toNat] else 128 :: u64.put (UInt64.ofNat c.toNat)
  get
    | byte :: rest =>
      if byte < 128 then some (Char.ofNat byte.toNat, rest)
      else (u64.get rest).map fun (n, rest) => (Char.ofNat n.toNat, rest)
    | [] => none
  get_put c rest := by
    have hc : c.toNat < 2 ^ 32 := c.val.toNat_lt
    by_cases hsmall : c.toNat < 128
    · have hbyte : (UInt8.ofNat c.toNat).toNat = c.toNat := by
        rw [UInt8.toNat_ofNat']
        omega
      have hlt : UInt8.ofNat c.toNat < 128 := by
        rw [UInt8.lt_iff_toNat_lt, hbyte]
        exact hsmall
      simp [hsmall, hlt, hbyte]
    · have hnumber : (UInt64.ofNat c.toNat).toNat = c.toNat := by
        rw [UInt64.toNat_ofNat']
        omega
      simp [hsmall, u64.get_put, hnumber]

def string : Codec String :=
  (list char).map String.toList String.ofList fun _ => String.ofList_toList

end Codec

end InferLab
