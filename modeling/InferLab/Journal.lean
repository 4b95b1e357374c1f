import Mathlib.Data.List.Infix
import Mathlib.Data.Nat.Notation

/-!
# Append-only journals of marked records

A journal is a file of records, each ended by a mark that no record contains. A crash while
a record is appended leaves a beginning of it; `Framing.exists_holds` says that the file then
still holds the records before it, and the last one only if it was written whole.
-/

namespace InferLab

/-- How the records of a journal are written: `mark` ends a record and occurs in none. -/
structure Framing (ε : Type) (mark : UInt8) where
  encode : ε → List UInt8
  decode : List UInt8 → Except String ε
  decode_encode : ∀ e, decode (encode e) = .ok e
  mark_notMem : ∀ e, mark ∉ encode e
  encode_ne_nil : ∀ e, encode e ≠ []

namespace Framing

variable {ε : Type} {mark : UInt8} (F : Framing ε mark) {es : List ε} {e : ε}
  {file torn : List UInt8}

/-- The bytes one append adds. -/
def record (e : ε) : List UInt8 := F.encode e ++ [mark]

/-- The bytes of a journal. -/
def bytes (es : List ε) : List UInt8 := es.flatMap F.record

@[simp]
lemma bytes_nil : F.bytes [] = [] := rfl

@[simp]
lemma bytes_cons : F.bytes (e :: es) = F.encode e ++ mark :: F.bytes es := by
  simp [bytes, record]

lemma bytes_concat : F.bytes (es ++ [e]) = F.bytes es ++ F.record e := by
  simp [bytes]

/-- The file holds the records `es`, and after them bytes `torn` of a record without end. -/
structure Holds (file : List UInt8) (es : List ε) (torn : List UInt8) : Prop where
  eq : file = F.bytes es ++ torn
  torn : mark ∉ torn

variable {F}

/-- A beginning of a record is the whole record or does not reach its end. -/
theorem mark_notMem_or_eq (h : torn <+: F.record e) : mark ∉ torn ∨ torn = F.record e := by
  unfold record at h ⊢
  rcases List.prefix_concat_iff.mp h with hall | hpart
  · exact .inr hall
  · exact .inl fun hmem => F.mark_notMem e (hpart.subset hmem)

/-- A file cut while `e` was appended holds the records before, and `e` if it is whole. -/
theorem exists_holds (es : List ε) (h : torn <+: F.record e) :
    ∃ es' rest, (es' = es ∨ es' = es ++ [e]) ∧ F.Holds (F.bytes es ++ torn) es' rest := by
  rcases mark_notMem_or_eq h with hpart | rfl
  · exact ⟨es, torn, .inl rfl, rfl, hpart⟩
  · refine ⟨es ++ [e], [], .inr rfl, ?_, List.not_mem_nil⟩
    rw [bytes_concat, List.append_nil]

lemma findIdx?_torn (h : mark ∉ torn) : torn.findIdx? (· == mark) = none := by
  rw [List.findIdx?_eq_none_iff]
  intro b hb
  have hne : b ≠ mark := fun heq => h (heq ▸ hb)
  simpa using hne

/-- The first mark of a journal ends its first record. -/
theorem findIdx?_encode (rest : List UInt8) :
    (F.encode e ++ mark :: rest).findIdx? (· == mark) = some (F.encode e).length := by
  rw [List.findIdx?_append, findIdx?_torn (F.mark_notMem e)]
  simp [List.findIdx?_cons]

end Framing

end InferLab
