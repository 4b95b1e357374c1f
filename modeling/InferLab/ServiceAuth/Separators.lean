import InferLab.ServiceAuth.Basic
import Mathlib.Data.List.DropRight
import Mathlib.Data.List.TakeDrop

/-!
# Service authentication: texts with separators

Key rings are configured by one text, with commas between the entries and slashes and equality
signs inside of them. What is joined with a separator splits at the same places again, apart from
the places where an entry itself has the separator.
-/

namespace InferLab.ServiceAuth

open Wire List

/-! ## Splitting -/

lemma split_ne_nil (separator : Char) (text : List Char) : split separator text ≠ [] := by
  cases text with
  | nil => exact cons_ne_nil _ _
  | cons c text =>
    unfold split
    split_ifs
    · exact cons_ne_nil _ _
    · cases split separator text <;> exact cons_ne_nil _ _

lemma split_append_separator (separator : Char) (first second : List Char) :
    split separator (first ++ separator :: second) =
      split separator first ++ split separator second := by
  induction first with
  | nil =>
    rw [nil_append]
    exact if_pos rfl
  | cons c first ih =>
    rw [cons_append, split, split, ih]
    by_cases hc : c = separator
    · rw [if_pos hc, if_pos hc, cons_append]
    · rw [if_neg hc, if_neg hc]
      cases hpieces : split separator first with
      | nil => exact absurd hpieces (split_ne_nil separator first)
      | cons piece pieces => rfl

variable {first : List Char}

/-- Characters that are not the separator stay with what comes after them. -/
theorem split_append {separator : Char} (h : separator ∉ first) (second : List Char) :
    ∃ piece pieces, split separator second = piece :: pieces ∧
      split separator (first ++ second) = (first ++ piece) :: pieces := by
  induction first with
  | nil =>
    obtain ⟨piece, pieces, hsplit⟩ := exists_cons_of_ne_nil (split_ne_nil separator second)
    exact ⟨piece, pieces, hsplit, hsplit⟩
  | cons c first ih =>
    obtain ⟨hc, hfirst⟩ := not_or.mp (mt mem_cons.mpr h)
    obtain ⟨piece, pieces, hsecond, hboth⟩ := ih hfirst
    refine ⟨piece, pieces, hsecond, ?_⟩
    rw [cons_append, split, if_neg (Ne.symm hc), hboth]
    rfl

lemma split_eq_singleton {separator : Char} {text : List Char} (h : separator ∉ text) :
    split separator text = [text] := by
  obtain ⟨piece, pieces, hnil, hsplit⟩ := split_append h []
  cases hnil
  rwa [append_nil] at hsplit

lemma splitOnce_append {separator : Char} (h : separator ∉ first) (second : List Char) :
    splitOnce separator (first ++ separator :: second) = some (first, second) := by
  have hspan : (first ++ separator :: second).span (· ≠ separator) =
      (first, separator :: second) := by
    have hall : ∀ c ∈ first, decide (c ≠ separator) = true := by
      intro c hc
      exact decide_eq_true fun heq => h (heq ▸ hc)
    rw [span_eq_takeWhile_dropWhile, takeWhile_append_of_pos hall,
      dropWhile_append_of_pos hall, takeWhile_cons_of_neg (by simp),
      dropWhile_cons_of_neg (by simp), append_nil]
  rw [splitOnce, hspan]

/-! ## Trimming -/

/-- `str::trim` on characters. -/
theorem trim_ofList (text : List Char) :
    trim (String.ofList text) = (text.dropWhile isWhiteSpace).rdropWhile isWhiteSpace := by
  rw [trim, String.toList_ofList]
  rfl

lemma dropWhile_eq_self (h : ∀ c ∈ first, isWhiteSpace c = false) :
    first.dropWhile isWhiteSpace = first := by
  cases first with
  | nil => rfl
  | cons c first => rw [dropWhile_cons_of_neg (by simp [h c mem_cons_self])]

lemma rdropWhile_append (h : ∀ c ∈ first, isWhiteSpace c = false) (second : List Char) :
    (first ++ second).rdropWhile isWhiteSpace = first ++ second.rdropWhile isWhiteSpace := by
  have hfirst : first.reverse.dropWhile isWhiteSpace = first.reverse :=
    dropWhile_eq_self fun c hc => h c (mem_reverse.mp hc)
  unfold List.rdropWhile
  rw [reverse_append, dropWhile_append]
  split_ifs with hblank
  · rw [hfirst, List.isEmpty_iff.mp hblank, reverse_reverse, reverse_nil,
      append_nil]
  · rw [reverse_append, reverse_reverse]

/-- A blank at the beginning is not at the end, unless all is blank. -/
theorem rdropWhile_cons {c : Char} (hc : isWhiteSpace c = true) (text : List Char) :
    ((c :: text).rdropWhile isWhiteSpace).dropWhile isWhiteSpace =
      (text.rdropWhile isWhiteSpace).dropWhile isWhiteSpace := by
  unfold List.rdropWhile
  rw [reverse_cons, dropWhile_append]
  split_ifs with hblank
  · rw [List.isEmpty_iff.mp hblank, dropWhile_cons_of_pos hc]
    rfl
  · rw [reverse_append, reverse_singleton, singleton_append,
      dropWhile_cons_of_pos hc]

/-- Both ends may be trimmed in either order. -/
theorem dropWhile_rdropWhile (text : List Char) :
    (text.rdropWhile isWhiteSpace).dropWhile isWhiteSpace =
      (text.dropWhile isWhiteSpace).rdropWhile isWhiteSpace := by
  induction text with
  | nil => rfl
  | cons c text ih =>
    by_cases hc : isWhiteSpace c = true
    · rw [rdropWhile_cons hc, ih, dropWhile_cons_of_pos hc]
    · have hword : ∀ d ∈ [c], isWhiteSpace d = false := by simpa using hc
      rw [dropWhile_cons_of_neg hc, ← singleton_append, rdropWhile_append hword,
        singleton_append, dropWhile_cons_of_neg hc]

lemma trim_rdropWhile (text : List Char) :
    trim (String.ofList (text.rdropWhile isWhiteSpace)) = trim (String.ofList text) := by
  rw [trim_ofList, trim_ofList, dropWhile_rdropWhile, rdropWhile_idempotent]

/-- Only the end of a text that begins with a word is trimmed. -/
theorem trim_append (h : ∀ c ∈ first, isWhiteSpace c = false) (hnonempty : first ≠ [])
    (second : List Char) :
    trim (String.ofList (first ++ second)) = first ++ second.rdropWhile isWhiteSpace := by
  obtain ⟨c, rest, rfl⟩ := exists_cons_of_ne_nil hnonempty
  have hc : ¬isWhiteSpace c = true := by simp [h c mem_cons_self]
  rw [trim_ofList, cons_append, dropWhile_cons_of_neg hc, ← cons_append,
    rdropWhile_append h]

lemma trim_word {text : List Char} (h : ∀ c ∈ text, isWhiteSpace c = false) :
    trim (String.ofList text) = text := by
  have hends := rdropWhile_append h []
  rw [append_nil, rdropWhile_nil, append_nil] at hends
  rw [trim_ofList, dropWhile_eq_self h, hends]

/-! ## Identifiers -/

/-- Characters of more than one byte end in one that is not in identifiers. -/
theorem toNat_lt_of_isIdByte {c : Char}
    (h : ∀ byte ∈ String.utf8EncodeChar c, isIdByte byte = true) : c.toNat < 128 := by
  have hlast : ∀ n < 64, isIdByte (UInt8.ofNat (n + 128)) = false := by decide
  by_contra hlarge
  have hmem : UInt8.ofNat (c.toNat % 64 + 128) ∈ String.utf8EncodeChar c := by
    change ¬c.val.toNat < 128 at hlarge
    change UInt8.ofNat (c.val.toNat % 64 + 128) ∈ _
    unfold String.utf8EncodeChar
    simp only [if_neg (show ¬c.val.toNat ≤ 127 by omega)]
    split_ifs <;> simp
  have hid := h _ hmem
  rw [hlast _ (Nat.mod_lt _ (by decide))] at hid
  cases hid

/-- Every character of an identifier is one byte of it. -/
theorem isIdByte_of_mem {value : String} (h : isId value = true) {c : Char}
    (hc : c ∈ value.toList) : c.toNat < 128 ∧ isIdByte c.val.toUInt8 = true := by
  unfold isId isIdentifier at h
  rw [← String.ofList_toList (s := value), utf8_ofList] at h
  simp only [Bool.and_eq_true, decide_eq_true_eq, all_eq_true] at h
  have hencoded : ∀ byte ∈ String.utf8EncodeChar c, isIdByte byte = true :=
    fun byte hbyte => h.2 byte (mem_flatMap.mpr ⟨c, hc, hbyte⟩)
  have hlt := toNat_lt_of_isIdByte hencoded
  have hself : String.utf8EncodeChar c = [c.val.toUInt8] := by
    change c.val.toNat < 128 at hlt
    unfold String.utf8EncodeChar
    simp only [if_pos (show c.val.toNat ≤ 127 by omega)]
    rfl
  rw [hself, forall_mem_singleton] at hencoded
  exact ⟨hlt, hencoded⟩

/-- What holds of the ASCII characters of identifiers holds of all their characters. -/
theorem forall_mem_of_isId {P : Char → Prop} {value : String} (h : isId value = true)
    (hascii : ∀ n < 128, isIdByte (Char.ofNat n).val.toUInt8 = true → P (Char.ofNat n)) :
    ∀ c ∈ value.toList, P c := by
  intro c hc
  obtain ⟨hlt, hbyte⟩ := isIdByte_of_mem h hc
  have hchar := hascii c.toNat hlt
  rw [Char.ofNat_toNat c] at hchar
  exact hchar hbyte

/-- No separator and no blank is in an identifier. -/
theorem of_isId {value : String} (h : isId value = true) :
    value.toList ≠ [] ∧
      ∀ c ∈ value.toList, isWhiteSpace c = false ∧ c ≠ ',' ∧ c ≠ '/' ∧ c ≠ '=' := by
  refine ⟨?_, forall_mem_of_isId h (by decide +kernel)⟩
  intro hempty
  have hnil : value = "" := String.toList_inj.mp hempty
  rw [hnil] at h
  exact absurd h (by decide)

/-! ## Lists -/

/-- The entry of a piece between commas. -/
def entry (piece : List Char) : String := String.ofList (trim (String.ofList piece))

lemma commaSeparated_eq (text : String) :
    commaSeparated text = ((split ',' text.toList).map entry).filter (· ≠ "") :=
  rfl

lemma commaSeparated_append (first second : String) :
    commaSeparated (first ++ "," ++ second) = commaSeparated first ++ commaSeparated second := by
  have htext : (first ++ "," ++ second).toList = first.toList ++ ',' :: second.toList := by
    rw [String.toList_append, String.toList_append, append_assoc]
    rfl
  rw [commaSeparated_eq, htext, split_append_separator, map_append, filter_append]
  rfl

/-- What is joined with commas splits into the entries of the parts. -/
theorem commaSeparated_intercalate (texts : List String) :
    commaSeparated (",".intercalate texts) = texts.flatMap commaSeparated := by
  induction texts with
  | nil => decide
  | cons first texts ih =>
    cases texts with
    | nil => rw [String.intercalate_singleton, flatMap_singleton]
    | cons second texts =>
      rw [String.intercalate_cons_cons, commaSeparated_append, ih]
      rfl

lemma commaSeparated_word {value : String} (hnonempty : value.toList ≠ [])
    (h : ∀ c ∈ value.toList, isWhiteSpace c = false ∧ c ≠ ',') :
    commaSeparated value = [value] := by
  have hcomma : ',' ∉ value.toList := fun hmem => (h _ hmem).2 rfl
  have hentry : entry value.toList = value := by
    rw [entry, trim_word fun c hc => (h c hc).1, String.ofList_toList]
  have hvalue : value ≠ "" := by
    rintro rfl
    exact hnonempty rfl
  rw [commaSeparated_eq, split_eq_singleton hcomma, map_singleton, hentry]
  exact filter_cons_of_pos (decide_eq_true hvalue)

end InferLab.ServiceAuth
