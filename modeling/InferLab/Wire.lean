import Mathlib.Algebra.Group.Nat.Defs
import Mathlib.Data.List.Basic
import Mathlib.Data.Nat.Notation

/-!
# Unambiguous byte encodings

An encoder appends bytes to a buffer and may fail. `Agrees P m m'` compares two encoders: what
they append can only be the beginning of the same bytes if `P` holds, and then they have
appended the same bytes. Encoders that run one after another are compared piece by piece, so
that equal messages are taken apart from the front.
-/

namespace InferLab.Wire

open List

abbrev Bytes := List UInt8

/-- Appends to a buffer. -/
abbrev Encoder (ε : Type) := StateT Bytes (Except ε)

variable {ε : Type}

/-- `bytes.extend_from_slice(..)`. -/
def extend (bytes : Bytes) : Encoder ε Unit := modify (· ++ bytes)

/-- What an encoder leaves in an empty buffer. -/
def encode (m : Encoder ε Unit) : Except ε Bytes := Prod.snd <$> m.run []

/-! ## Integers and text -/

/-- `to_be_bytes` of an integer of `width` bytes. -/
def beBytes : ℕ → ℕ → Bytes
  | 0, _ => []
  | width + 1, n => beBytes width (n / 256) ++ [UInt8.ofNat (n % 256)]

def be32 (n : ℕ) : Bytes := beBytes 4 n

def be64 (n : UInt64) : Bytes := beBytes 8 n.toNat

/-- `as_bytes` of a string. -/
def utf8 (text : String) : Bytes := text.toUTF8.data.toList

/-- Bytes with their number in front. -/
def appendBytes (tooLong : ε) (value : Bytes) : Encoder ε Unit :=
  if value.length < 2 ^ 32 then do
    extend (be32 value.length)
    extend value
  else throw tooLong

def appendString (tooLong : ε) (text : String) : Encoder ε Unit := appendBytes tooLong (utf8 text)

/-- The number of elements that follow. -/
def appendCount (tooMany : ε) (count : ℕ) : Encoder ε Unit :=
  if count < 2 ^ 32 then extend (be32 count) else throw tooMany

lemma length_beBytes {width n : ℕ} : (beBytes width n).length = width := by
  induction width generalizing n with
  | zero => rfl
  | succ width ih => rw [beBytes, length_append, ih, length_singleton]

lemma beBytes_injective {width n m : ℕ} (hn : n < 256 ^ width) (hm : m < 256 ^ width)
    (h : beBytes width n = beBytes width m) : n = m := by
  induction width generalizing n m with
  | zero =>
    rw [Nat.pow_zero] at hn hm
    omega
  | succ width ih =>
    rw [Nat.pow_succ, Nat.mul_comm] at hn hm
    obtain ⟨hinit, hlast⟩ := append_inj h (by rw [length_beBytes, length_beBytes])
    have hdiv : n / 256 = m / 256 :=
      ih (Nat.div_lt_of_lt_mul hn) (Nat.div_lt_of_lt_mul hm) hinit
    have hmod : n % 256 = m % 256 := by
      have hbyte := congrArg UInt8.toNat (List.cons.inj hlast).1
      rw [UInt8.toNat_ofNat', UInt8.toNat_ofNat'] at hbyte
      omega
    rw [← Nat.div_add_mod n 256, ← Nat.div_add_mod m 256, hdiv, hmod]

lemma be64_injective {n m : UInt64} (h : be64 n = be64 m) : n = m :=
  UInt64.toNat_inj.mp (beBytes_injective n.toNat_lt m.toNat_lt h)

lemma utf8_ofList (text : List Char) :
    utf8 (String.ofList text) = text.flatMap String.utf8EncodeChar := by
  rw [utf8, String.toUTF8_eq_toByteArray, String.toByteArray_ofList]
  exact toList_data_toByteArray

lemma utf8_injective {s t : String} (h : utf8 s = utf8 t) : s = t := by
  rw [utf8, utf8, String.toUTF8_eq_toByteArray, String.toUTF8_eq_toByteArray] at h
  exact String.toByteArray_inj.mp (ByteArray.ext (Array.toList_inj.mp h))

lemma bind_ok_iff {m n : Encoder ε Unit} {s s' : Bytes} :
    (m >>= fun _ => n) s = .ok ((), s') ↔ ∃ t, m s = .ok ((), t) ∧ n t = .ok ((), s') := by
  show (Except.bind (m s) fun p => n p.2) = _ ↔ _
  cases hrun : m s with
  | error e => simp [Except.bind]
  | ok p =>
    obtain ⟨⟨⟩, t⟩ := p
    simp [Except.bind]

lemma of_encode_eq_ok {m : Encoder ε Unit} {u : Bytes} (h : encode m = .ok u) :
    m [] = .ok ((), u) := by
  have h' : Except.map Prod.snd (m []) = .ok u := h
  cases hrun : m [] with
  | error e =>
    rw [hrun] at h'
    cases h'
  | ok p =>
    rw [hrun] at h'
    cases h'
    rfl

/-! ## Comparing encoders -/

/-- Whenever two encoders succeed, they have appended something to their buffers, and if what
they appended can be completed to the same bytes then `P` holds and they appended the same. -/
def Agrees (P : Prop) (m m' : Encoder ε Unit) : Prop :=
  ∀ s t s' t', m s = .ok ((), s') → m' t = .ok ((), t') →
    ∃ u v, s' = s ++ u ∧ t' = t ++ v ∧ ∀ x y, u ++ x = v ++ y → P ∧ x = y

namespace Agrees

variable {P Q : Prop} {m m' n n' : Encoder ε Unit}

lemma imp (h : Agrees P m m') (hPQ : P → Q) : Agrees Q m m' := by
  intro s t s' t' hm hm'
  obtain ⟨u, v, hu, hv, h⟩ := h s t s' t' hm hm'
  exact ⟨u, v, hu, hv, fun x y hxy => ⟨hPQ (h x y hxy).1, (h x y hxy).2⟩⟩

/-- One encoder after another. -/
theorem seq (hm : Agrees P m m') (hn : Agrees Q n n') :
    Agrees (P ∧ Q) (m >>= fun _ => n) (m' >>= fun _ => n') := by
  intro s t s' t' h h'
  obtain ⟨s₁, hm₁, hn₁⟩ := bind_ok_iff.mp h
  obtain ⟨t₁, hm₂, hn₂⟩ := bind_ok_iff.mp h'
  obtain ⟨u, v, rfl, rfl, hfirst⟩ := hm s t s₁ t₁ hm₁ hm₂
  obtain ⟨u', v', rfl, rfl, hsecond⟩ := hn _ _ s' t' hn₁ hn₂
  refine ⟨u ++ u', v ++ v', by rw [append_assoc], by rw [append_assoc], ?_⟩
  intro x y hxy
  rw [append_assoc, append_assoc] at hxy
  obtain ⟨hP, hrest⟩ := hfirst _ _ hxy
  obtain ⟨hQ, hend⟩ := hsecond _ _ hrest
  exact ⟨⟨hP, hQ⟩, hend⟩

/-- The end of an encoder. -/
theorem done : Agrees True (pure () : Encoder ε Unit) (pure ()) := by
  intro s t s' t' h h'
  cases h
  cases h'
  exact ⟨[], [], (append_nil s).symm, (append_nil t).symm, fun x y hxy => ⟨trivial, hxy⟩⟩

/-- Pieces of one length that determine what they were made from. -/
theorem extend {u v : Bytes} (hlength : u.length = v.length) (hP : u = v → P) :
    Agrees P (Wire.extend u : Encoder ε Unit) (Wire.extend v) := by
  intro s t s' t' h h'
  cases h
  cases h'
  refine ⟨u, v, rfl, rfl, ?_⟩
  intro x y hxy
  obtain ⟨huv, hend⟩ := append_inj hxy hlength
  exact ⟨hP huv, hend⟩

variable {e e' : ε}

/-- An encoder that may refuse what it is given, compared where it does not. -/
theorem ite {c c' : Prop} [Decidable c] [Decidable c'] (h : c → c' → Agrees P m m') :
    Agrees P (if c then m else throw e) (if c' then m' else throw e') := by
  intro s t s' t' hm hm'
  by_cases hc : c
  · by_cases hc' : c'
    · rw [if_pos hc] at hm
      rw [if_pos hc'] at hm'
      exact h hc hc' s t s' t' hm hm'
    · rw [if_neg hc'] at hm'
      cases hm'
  · rw [if_neg hc] at hm
    cases hm

lemma be64 {a b : UInt64} :
    Agrees (a = b) (Wire.extend (Wire.be64 a) : Encoder ε Unit)
      (Wire.extend (Wire.be64 b)) :=
  extend (by rw [Wire.be64, Wire.be64, length_beBytes, length_beBytes]) be64_injective

lemma count {a b : ℕ} : Agrees (a = b) (appendCount e a) (appendCount e' b) := by
  apply ite
  intro ha hb
  apply extend
  · rw [be32, be32, length_beBytes, length_beBytes]
  · exact beBytes_injective ha hb

/-- The number in front says where the bytes end. -/
theorem bytes {a b : Bytes} : Agrees (a = b) (appendBytes e a) (appendBytes e' b) := by
  apply ite
  intro ha hb s t s' t' h h'
  cases h
  cases h'
  refine ⟨be32 a.length ++ a, be32 b.length ++ b, append_assoc _ _ _,
    append_assoc _ _ _, ?_⟩
  intro x y hxy
  rw [append_assoc, append_assoc] at hxy
  obtain ⟨hlength, hrest⟩ := append_inj hxy (by rw [be32, be32, length_beBytes, length_beBytes])
  exact append_inj hrest (beBytes_injective ha hb hlength)

lemma string {a b : String} : Agrees (a = b) (appendString e a) (appendString e' b) :=
  bytes.imp utf8_injective

/-- Elements one after another, where there are equally many. -/
theorem elements {α : Type} {f : α → Encoder ε Unit} (hf : ∀ a b, Agrees (a = b) (f a) (f b))
    {xs ys : List α} (hlength : xs.length = ys.length) :
    Agrees (xs = ys) (xs.forM f) (ys.forM f) := by
  induction xs generalizing ys with
  | nil =>
    obtain rfl : ys = [] := eq_nil_of_length_eq_zero hlength.symm
    exact done.imp fun _ => rfl
  | cons a xs ih =>
    cases ys with
    | nil => cases hlength
    | cons b ys =>
      show Agrees _ (f a >>= fun _ => xs.forM f) (f b >>= fun _ => ys.forM f)
      apply ((hf a b).seq (ih (Nat.succ.inj hlength))).imp
      rintro ⟨rfl, rfl⟩
      rfl

/-- A list with the number of its elements in front, and what follows it. -/
theorem list {α : Type} {f : α → Encoder ε Unit} (hf : ∀ a b, Agrees (a = b) (f a) (f b))
    {xs ys : List α} (hn : Agrees Q n n') :
    Agrees (xs = ys ∧ Q)
      (appendCount e xs.length >>= fun _ => xs.forM f >>= fun _ => n)
      (appendCount e' ys.length >>= fun _ => ys.forM f >>= fun _ => n') := by
  by_cases hlength : xs.length = ys.length
  · exact (count.seq ((elements hf hlength).seq hn)).imp fun h => h.2
  · -- the numbers in front differ, whatever follows them
    have hself : ∀ zs : List α, Agrees True (zs.forM f) (zs.forM f) := fun zs =>
      (elements hf rfl).imp fun _ => trivial
    intro s t s' t' h h'
    obtain ⟨s₁, hcount, h⟩ := bind_ok_iff.mp h
    obtain ⟨s₂, hxs, h⟩ := bind_ok_iff.mp h
    obtain ⟨t₁, hcount', h'⟩ := bind_ok_iff.mp h'
    obtain ⟨t₂, hys, h'⟩ := bind_ok_iff.mp h'
    have hcounts : Agrees (xs.length = ys.length) (appendCount e xs.length)
        (appendCount e' ys.length) := count
    obtain ⟨c, c', rfl, rfl, hdiffer⟩ := hcounts _ _ _ _ hcount hcount'
    obtain ⟨u, -, rfl, -, -⟩ := hself xs _ _ _ _ hxs hxs
    obtain ⟨v, -, rfl, -, -⟩ := hself ys _ _ _ _ hys hys
    obtain ⟨w, z, rfl, rfl, -⟩ := hn _ _ _ _ h h'
    refine ⟨c ++ (u ++ w), c' ++ (v ++ z), by simp only [append_assoc],
      by simp only [append_assoc], ?_⟩
    intro x y hxy
    rw [append_assoc c, append_assoc c'] at hxy
    exact absurd (hdiffer _ _ hxy).1 hlength

/-- A list at the end of a message. -/
theorem lastList {α : Type} {f : α → Encoder ε Unit} (hf : ∀ a b, Agrees (a = b) (f a) (f b))
    {xs ys : List α} :
    Agrees (xs = ys) (appendCount e xs.length >>= fun _ => xs.forM f)
      (appendCount e' ys.length >>= fun _ => ys.forM f) := by
  have h : Agrees (xs = ys ∧ True)
      (appendCount e xs.length >>= fun _ => xs.forM f >>= fun _ => pure ())
      (appendCount e' ys.length >>= fun _ => ys.forM f >>= fun _ => pure ()) := list hf done
  rw [bind_pure_unit, bind_pure_unit] at h
  exact h.imp And.left

/-- Equal messages agree. -/
theorem of_encode (h : Agrees P m m') {u : Bytes} (hm : encode m = .ok u)
    (hm' : encode m' = .ok u) : P := by
  obtain ⟨v, w, rfl, hw, hP⟩ := h [] [] u u (of_encode_eq_ok hm) (of_encode_eq_ok hm')
  exact (hP [] [] (by rw [hw, nil_append])).1

end Agrees

/-- A message starts with the first piece of its encoder. -/
theorem starts_of_encode {n : Encoder ε Unit} (hn : Agrees True n n) {d u : Bytes}
    (h : encode (extend d >>= fun _ => n) = .ok u) : d <+: u := by
  obtain ⟨t, hd, hrest⟩ := bind_ok_iff.mp (of_encode_eq_ok h)
  cases hd
  obtain ⟨v, -, rfl, -, -⟩ := hn _ _ _ _ hrest hrest
  exact ⟨v, rfl⟩

end InferLab.Wire
