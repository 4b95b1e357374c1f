import Mathlib.Data.List.Basic
import Mathlib.Data.Nat.Notation
import Mathlib.Tactic.Common

/-!
# Codes of four bits, two in a byte

`nibble` reads the code at an index and `write` puts one there: a code at an even index replaces
the byte, one at an odd index is added to it. So the order of writes matters. What is written
from the front into bytes of zeros is read back, and no write changes a code at another index.
-/

namespace InferLab.Nibbles

open List

/-- The code at an index: the low half of a byte, then the high one. -/
def nibble (bytes : List UInt8) (i : ℕ) : UInt8 :=
  let byte := bytes.getD (i / 2) 0
  if i % 2 = 0 then byte &&& 0x0F else byte >>> 4

def write (bytes : List UInt8) (i : ℕ) (code : UInt8) : List UInt8 :=
  if i % 2 = 0 then bytes.set (i / 2) code
  else bytes.set (i / 2) (bytes.getD (i / 2) 0 ||| code <<< 4)

/-! ## One byte -/

section Byte

variable {byte code : UInt8}

lemma toNat_low (byte : UInt8) : (byte &&& 0x0F).toNat = byte.toNat % 16 := by
  rw [UInt8.toNat_and]
  exact Nat.and_two_pow_sub_one_eq_mod byte.toNat 4

lemma toNat_high (byte : UInt8) : (byte >>> 4).toNat = byte.toNat / 16 := by
  rw [UInt8.toNat_shiftRight]
  exact Nat.shiftRight_eq_div_pow byte.toNat 4

lemma toNat_or (byte code : UInt8) :
    (byte ||| code <<< 4).toNat = byte.toNat ||| code.toNat * 16 % 256 := by
  rw [UInt8.toNat_or, UInt8.toNat_shiftLeft]
  have hshift : code.toNat <<< (UInt8.toNat 4 % 8) = code.toNat * 16 :=
    Nat.shiftLeft_eq code.toNat 4
  rw [hshift]

lemma low_of_lt (h : code < 16) : code &&& 0x0F = code := by
  have hlt : code.toNat < 16 := UInt8.lt_iff_toNat_lt.mp h
  apply UInt8.toNat_inj.mp
  rw [toNat_low, Nat.mod_eq_of_lt hlt]

lemma high_of_lt (h : code < 16) : code >>> 4 = 0 := by
  have hlt : code.toNat < 16 := UInt8.lt_iff_toNat_lt.mp h
  apply UInt8.toNat_inj.mp
  rw [toNat_high, Nat.div_eq_of_lt hlt]
  rfl

lemma low_or (byte code : UInt8) : (byte ||| code <<< 4) &&& 0x0F = byte &&& 0x0F := by
  have hzero : code.toNat * 16 % 256 % 2 ^ 4 = 0 := by omega
  apply UInt8.toNat_inj.mp
  rw [toNat_low, toNat_low, toNat_or]
  change (byte.toNat ||| code.toNat * 16 % 256) % 2 ^ 4 = byte.toNat % 2 ^ 4
  rw [Nat.or_mod_two_pow, hzero, Nat.or_zero]

lemma high_or (hbyte : byte >>> 4 = 0) (h : code < 16) : (byte ||| code <<< 4) >>> 4 = code := by
  have hlt : code.toNat < 16 := UInt8.lt_iff_toNat_lt.mp h
  have hhigh : byte.toNat / 2 ^ 4 = 0 := by
    have hzero := congrArg UInt8.toNat hbyte
    rwa [toNat_high] at hzero
  have hcode : code.toNat * 16 % 256 / 2 ^ 4 = code.toNat := by omega
  apply UInt8.toNat_inj.mp
  rw [toNat_high, toNat_or]
  change (byte.toNat ||| code.toNat * 16 % 256) / 2 ^ 4 = code.toNat
  rw [Nat.or_div_two_pow, hhigh, hcode, Nat.zero_or]

end Byte

/-! ## One write -/

section Write

variable {bytes : List UInt8} {i j : ℕ} {code : UInt8}

lemma nibble_even (h : i % 2 = 0) : nibble bytes i = bytes.getD (i / 2) 0 &&& 0x0F := by
  simp only [nibble, if_pos h]

lemma nibble_odd (h : i % 2 = 1) : nibble bytes i = bytes.getD (i / 2) 0 >>> 4 := by
  simp only [nibble, if_neg (show ¬i % 2 = 0 by omega)]

lemma getD_set (bytes : List UInt8) (k l : ℕ) (byte : UInt8) :
    (bytes.set k byte).getD l 0 = if k = l ∧ k < bytes.length then byte else bytes.getD l 0 := by
  rw [getD_eq_getElem?_getD, getD_eq_getElem?_getD, List.getElem?_set]
  by_cases hkl : k = l
  · subst hkl
    by_cases hlength : k < bytes.length
    · simp [hlength]
    · simp [hlength]
  · simp [hkl]

@[simp]
lemma length_write : (write bytes i code).length = bytes.length := by
  unfold write
  split_ifs <;> exact length_set

lemma nibble_write_self (hlength : i / 2 < bytes.length) (hcode : code < 16)
    (hzero : nibble bytes i = 0) : nibble (write bytes i code) i = code := by
  by_cases hi : i % 2 = 0
  · rw [nibble_even hi, write, if_pos hi, getD_set, if_pos ⟨rfl, hlength⟩, low_of_lt hcode]
  · rw [nibble_odd (by omega)] at hzero
    rw [nibble_odd (by omega), write, if_neg hi, getD_set, if_pos ⟨rfl, hlength⟩,
      high_or hzero hcode]

/-- A code at an even index replaces the next one too, which is a zero then. -/
theorem nibble_write_of_ne (hcode : code < 16) (hnext : i % 2 = 0 → nibble bytes (i + 1) = 0)
    (hne : j ≠ i) : nibble (write bytes i code) j = nibble bytes j := by
  by_cases hbyte : i / 2 = j / 2 ∧ i / 2 < bytes.length
  · by_cases hi : i % 2 = 0
    · obtain rfl : j = i + 1 := by omega
      rw [hnext hi, nibble_odd (by omega), write, if_pos hi, getD_set, if_pos hbyte,
        high_of_lt hcode]
    · rw [nibble_even (by omega), nibble_even (by omega), write, if_neg hi, getD_set,
        if_pos hbyte, low_or, hbyte.1]
  · have hsame : (write bytes i code).getD (j / 2) 0 = bytes.getD (j / 2) 0 := by
      unfold write
      split_ifs <;> rw [getD_set, if_neg hbyte]
    simp only [nibble, hsame]

end Write

/-! ## Writes from the front -/

/-- The codes before an index have been written and those from it on have not. -/
structure Filled (bytes : List UInt8) (n : ℕ) (code : ℕ → UInt8) : Prop where
  written : ∀ i < n, nibble bytes i = code i
  zero : ∀ i, n ≤ i → nibble bytes i = 0

def writeAll (bytes : List UInt8) (writes : List (ℕ × UInt8)) : List UInt8 :=
  writes.foldl (fun bytes w => write bytes w.1 w.2) bytes

section Filled

variable {bytes : List UInt8} {n : ℕ} {code : ℕ → UInt8}

lemma filled_replicate (k : ℕ) (code : ℕ → UInt8) : Filled (List.replicate k 0) 0 code := by
  refine ⟨fun i hi => absurd hi (Nat.not_lt_zero i), fun i _ => ?_⟩
  have hbyte : (List.replicate k (0 : UInt8)).getD (i / 2) 0 = 0 := by
    rw [getD_eq_getElem?_getD, List.getElem?_replicate]
    split_ifs <;> rfl
  simp only [nibble, hbyte]
  split_ifs <;> rfl

/-- No write changes the code at another index. -/
theorem Filled.nibble_write (h : Filled bytes n code) {j : ℕ} (hcode : code n < 16) (hne : j ≠ n) :
    nibble (write bytes n (code n)) j = nibble bytes j :=
  nibble_write_of_ne hcode (fun _ => h.zero (n + 1) (Nat.le_succ n)) hne

lemma Filled.write (h : Filled bytes n code) (hlength : n / 2 < bytes.length)
    (hcode : code n < 16) : Filled (write bytes n (code n)) (n + 1) code := by
  refine ⟨fun i hi => ?_, fun i hi => ?_⟩
  · rcases Nat.lt_succ_iff_lt_or_eq.mp hi with hlt | rfl
    · rw [h.nibble_write hcode (by omega), h.written i hlt]
    · exact nibble_write_self hlength hcode (h.zero i (Nat.le_refl i))
  · rw [h.nibble_write hcode (by omega), h.zero i (by omega)]

lemma length_writeAll (bytes : List UInt8) (writes : List (ℕ × UInt8)) :
    (writeAll bytes writes).length = bytes.length := by
  unfold writeAll
  induction writes generalizing bytes with
  | nil => rfl
  | cons w writes ih => rw [foldl_cons, ih, length_write]

lemma writeAll_append (bytes : List UInt8) (writes more : List (ℕ × UInt8)) :
    writeAll bytes (writes ++ more) = writeAll (writeAll bytes writes) more :=
  foldl_append

lemma filled_writeAll {k : ℕ} (hn : (n + 1) / 2 ≤ k) (hcode : ∀ i < n, code i < 16) :
    Filled (writeAll (List.replicate k 0) ((List.range n).map fun i => (i, code i))) n code := by
  induction n with
  | zero => exact filled_replicate k code
  | succ n ih =>
    have hfilled := ih (by omega) fun i hi => hcode i (by omega)
    rw [range_succ, map_append, writeAll_append]
    refine hfilled.write ?_ (hcode n (by omega))
    rw [length_writeAll, length_replicate]
    omega

end Filled

end InferLab.Nibbles
