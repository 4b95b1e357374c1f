import Mathlib.Data.Nat.Notation
import Mathlib.Data.Nat.Digits.Defs
import Mathlib.Data.String.Basic

/-!
# What Rust's standard library computes

Unsigned arithmetic that saturates, `str::trim` and its like, and the decimal texts of
`format!` and `parse`. An unsigned integer is a natural number; a function on texts works on
the characters.
-/

namespace InferLab

open List

/-! ## Unsigned integers -/

/-- The largest `u32`. -/
def u32Max : ℕ := 2 ^ 32 - 1

/-- The largest `u64`. -/
def u64Max : ℕ := 2 ^ 64 - 1

/-- `saturating_add` of the type whose largest value is `max`. -/
def saturatingAdd (max a b : ℕ) : ℕ := min (a + b) max

lemma saturatingAdd_of_le {max a b : ℕ} (h : a + b ≤ max) : saturatingAdd max a b = a + b :=
  min_eq_left h

/-! ## Texts -/

/-- The characters `str::trim` removes: Unicode's `White_Space`. -/
def isWhiteSpace (c : Char) : Bool :=
  let n := c.toNat
  (0x09 ≤ n && n ≤ 0x0D) || n == 0x20 || n == 0x85 || n == 0xA0 || n == 0x1680 ||
    (0x2000 ≤ n && n ≤ 0x200A) || n == 0x2028 || n == 0x2029 || n == 0x202F || n == 0x205F ||
    n == 0x3000

/-- The characters of `s.trim()`. -/
def trim (s : String) : List Char :=
  ((s.toList.dropWhile isWhiteSpace).reverse.dropWhile isWhiteSpace).reverse

/-- `s.starts_with(start)`. -/
def startsWith (s start : String) : Bool :=
  start.toList.isPrefixOf s.toList

/-- The characters of `s.strip_prefix(start)`. -/
def stripStart? (s start : String) : Option (List Char) :=
  if start.toList.isPrefixOf s.toList then some (s.toList.drop start.toList.length) else none

lemma stripStart?_append (start : String) (cs : List Char) :
    stripStart? (start ++ String.ofList cs) start = some cs := by
  unfold stripStart?
  rw [String.toList_append, String.toList_ofList, if_pos (by simp), drop_left]

/-! ## Decimals -/

/-- The characters of `format!("{:0width$}", n)`. -/
def paddedDecimal (width n : ℕ) : List Char :=
  List.replicate (width - (Nat.toDigits 10 n).length) '0' ++ Nat.toDigits 10 n

lemma dot_notMem_toDigits (n : ℕ) : '.' ∉ Nat.toDigits 10 n := by
  intro hmem
  have hdigit : ('.').isDigit = true := Nat.isDigit_of_mem_toDigits (by omega) (by omega) hmem
  exact absurd hdigit (by decide)

lemma toList_repr (n : ℕ) : (Nat.repr n).toList = Nat.toDigits 10 n := by
  unfold Nat.repr
  rw [String.toList_ofList]

lemma toDigits_injective {m n : ℕ} (h : Nat.toDigits 10 m = Nat.toDigits 10 n) : m = n := by
  rw [← Nat.ofDigitChars_ten_toDigits (n := m), h, Nat.ofDigitChars_ten_toDigits]

/-- The digits after an optional plus sign. -/
def stripPlus : List Char → List Char
  | '+' :: rest => rest
  | cs => cs

/-- `parse::<u64>()`: an optional plus sign, digits only, and no overflow. -/
def parseU64? (cs : List Char) : Option ℕ :=
  let digits := stripPlus cs
  if digits = [] ∨ ¬ digits.all Char.isDigit then
    none
  else
    let n := Nat.ofDigitChars 10 digits 0
    if n ≤ u64Max then some n else none

lemma isDigit_of_mem_paddedDecimal {width n : ℕ} {c : Char} (h : c ∈ paddedDecimal width n) :
    c.isDigit = true := by
  unfold paddedDecimal at h
  rcases mem_append.mp h with hzero | hdigit
  · obtain rfl := eq_of_mem_replicate hzero
    decide
  · exact Nat.isDigit_of_mem_toDigits (by omega) (by omega) hdigit

lemma ofDigitChars_paddedDecimal (width n : ℕ) :
    Nat.ofDigitChars 10 (paddedDecimal width n) 0 = n := by
  unfold paddedDecimal
  rw [Nat.ofDigitChars_append, Nat.ofDigitChars_replicate_zero, Nat.mul_zero]
  exact Nat.ofDigitChars_ten_toDigits

/-- Digits have no sign to strip. -/
theorem stripPlus_eq {cs : List Char} (h : ∀ c ∈ cs, c.isDigit = true) : stripPlus cs = cs := by
  unfold stripPlus
  split
  · rename_i rest
    have := h '+' mem_cons_self
    contradiction
  · rfl

/-- A padded decimal is read back as the number it was written for. -/
theorem parseU64?_paddedDecimal {width n : ℕ} (h : n ≤ u64Max) :
    parseU64? (paddedDecimal width n) = some n := by
  have hdigits : ∀ c ∈ paddedDecimal width n, c.isDigit = true :=
    fun c hc => isDigit_of_mem_paddedDecimal hc
  have hne : paddedDecimal width n ≠ [] := by
    simp [paddedDecimal, Nat.toDigits_ne_nil]
  unfold parseU64?
  simp only [stripPlus_eq hdigits, ofDigitChars_paddedDecimal]
  rw [if_neg (by simpa [hne] using hdigits), if_pos h]

/-! ## The order of decimals -/

lemma toNat_of_isDigit {c : Char} (h : c.isDigit = true) : 48 ≤ c.toNat ∧ c.toNat ≤ 57 := by
  simp only [Char.isDigit, Bool.and_eq_true, decide_eq_true_eq] at h
  exact h

/-- The first digit counts as often as there are numbers of the digits after it. -/
theorem ofDigitChars_cons_zero (c : Char) (cs : List Char) :
    Nat.ofDigitChars 10 (c :: cs) 0 =
      10 ^ cs.length * (c.toNat - 48) + Nat.ofDigitChars 10 cs 0 := by
  rw [Nat.ofDigitChars_cons, Nat.ofDigitChars_eq_ofDigitChars_zero, Nat.mul_zero, Nat.zero_add]
  rfl

lemma ofDigitChars_lt {cs : List Char} (h : ∀ c ∈ cs, c.isDigit = true) :
    Nat.ofDigitChars 10 cs 0 < 10 ^ cs.length := by
  induction cs with
  | nil => simp
  | cons c cs ih =>
    have hrest := ih fun d hd => h d (mem_cons_of_mem c hd)
    have hdigit : c.toNat - 48 ≤ 9 := by
      have := toNat_of_isDigit (h c mem_cons_self)
      omega
    have hmul := Nat.mul_le_mul_left (10 ^ cs.length) hdigit
    rw [ofDigitChars_cons_zero, length_cons, pow_succ]
    omega

/-- Digits of one length are ordered as the numbers they stand for. -/
theorem lt_of_ofDigitChars_lt {cs ds : List Char} (hlength : cs.length = ds.length)
    (hcs : ∀ c ∈ cs, c.isDigit = true) (hds : ∀ c ∈ ds, c.isDigit = true)
    (h : Nat.ofDigitChars 10 cs 0 < Nat.ofDigitChars 10 ds 0) : cs < ds := by
  induction cs generalizing ds with
  | nil =>
    obtain rfl := length_eq_zero_iff.mp hlength.symm
    omega
  | cons c cs ih =>
    cases ds with
    | nil => simp at hlength
    | cons d ds =>
      have hlength' : cs.length = ds.length := by simpa using hlength
      have hcs' : ∀ c ∈ cs, c.isDigit = true := fun x hx => hcs x (mem_cons_of_mem c hx)
      have hds' : ∀ c ∈ ds, c.isDigit = true := fun x hx => hds x (mem_cons_of_mem d hx)
      rw [ofDigitChars_cons_zero, ofDigitChars_cons_zero, hlength'] at h
      rw [cons_lt_cons_iff]
      rcases lt_trichotomy c d with hlt | rfl | hgt
      · exact .inl hlt
      · exact .inr ⟨rfl, ih hlength' hcs' hds' (by omega)⟩
      · -- the larger first digit outweighs all digits after it
        have hgt' : d.toNat < c.toNat := hgt
        have hdigit : d.toNat - 48 + 1 ≤ c.toNat - 48 := by
          have := toNat_of_isDigit (hds d mem_cons_self)
          omega
        have hmul := Nat.mul_le_mul_left (10 ^ ds.length) hdigit
        have hrest := ofDigitChars_lt hds'
        rw [Nat.mul_add] at hmul
        omega

lemma length_paddedDecimal {width n : ℕ} (hwidth : 0 < width) (h : n < 10 ^ width) :
    (paddedDecimal width n).length = width := by
  have hle : (Nat.toDigits 10 n).length ≤ width :=
    (Nat.length_toDigits_le_iff (by omega) hwidth).mpr h
  unfold paddedDecimal
  rw [length_append, length_replicate]
  omega

/-- Padded decimals are ordered as their numbers, as long as these fit the width. -/
theorem paddedDecimal_lt {width m n : ℕ} (hwidth : 0 < width) (hmn : m < n)
    (hn : n < 10 ^ width) : paddedDecimal width m < paddedDecimal width n := by
  apply lt_of_ofDigitChars_lt
  · rw [length_paddedDecimal hwidth (hmn.trans hn), length_paddedDecimal hwidth hn]
  · exact fun c hc => isDigit_of_mem_paddedDecimal hc
  · exact fun c hc => isDigit_of_mem_paddedDecimal hc
  · rw [ofDigitChars_paddedDecimal, ofDigitChars_paddedDecimal]
    exact hmn

end InferLab
