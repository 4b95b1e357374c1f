import InferLab.Checks
import InferLab.Wire
import InferLab.Primitives

/-!
# Service authentication: identifiers, keys and errors

What the signed messages of services have in common. Ed25519, SHA-256, base64 and JSON come
from other packages and are parameters.
-/

namespace InferLab.ServiceAuth

open Wire Option

/-- Keys and signatures are the byte strings of their encodings. -/
class Ed25519 where
  /-- `VerifyingKey::from_bytes`, with the text of its error. -/
  verifyingKey : Bytes → Except String Unit
  verifyStrict : (key message signature : Bytes) → Bool
  /-- The public key of a private seed. -/
  publicKey : Bytes → Bytes
  sign : (seed message : Bytes) → Bytes

/-- The standard alphabet, with padding. -/
class Base64 where
  /-- With the text of the error. -/
  decode : String → Except String Bytes
  encode : Bytes → String

/-- A digest of bytes. -/
class Sha256 where
  digest : Bytes → Bytes

/-- What a key has signed verifies with its public key. -/
class LawfulEd25519 [Ed25519] : Prop where
  verifyStrict_sign : ∀ seed message : Bytes, seed.length = 32 →
    Ed25519.verifyStrict (Ed25519.publicKey seed) message (Ed25519.sign seed message) = true
  length_sign : ∀ seed message : Bytes, seed.length = 32 →
    (Ed25519.sign seed message).length = 64

/-- What was encoded is decoded. -/
class LawfulBase64 [Base64] : Prop where
  decode_encode : ∀ bytes : Bytes, Base64.decode (Base64.encode bytes) = .ok bytes

/-- A digest has 32 bytes. -/
class LawfulSha256 [Sha256] : Prop where
  length_digest : ∀ bytes : Bytes, (Sha256.digest bytes).length = 32

/-- `serde_json` at one type. -/
class Json (α : Type) where
  toVec : α → Bytes
  fromSlice : Bytes → Option α

/-- What was written is read again. -/
class LawfulJson (α : Type) [Json α] : Prop where
  fromSlice_toVec : ∀ a : α, Json.fromSlice (Json.toVec a) = some a

/-- `serde_json::to_vec_pretty` at one type. -/
class PrettyJson (α : Type) extends Json α where
  toVecPretty : α → Bytes

/-- A file that ends in a new line is read again. -/
class LawfulPrettyJson (α : Type) [PrettyJson α] : Prop where
  fromSlice_toVecPretty : ∀ a : α, Json.fromSlice (PrettyJson.toVecPretty a ++ [10]) = some a

/-- The reasons why a request is not authenticated. -/
inductive AuthenticationErrorKind
  | invalid
  | unknownService
  | revokedService
  | revokedCredential
  | signature
deriving Repr, DecidableEq

/-- A request that is not authenticated. -/
structure AuthenticationError where
  kind : AuthenticationErrorKind
  credentialId : Option String
  message : String
deriving Repr, DecidableEq

/-- An error that names no credential. -/
def AuthenticationError.new (message : String) : AuthenticationError := ⟨.invalid, none, message⟩

/-! ## Identifiers -/

/-- The longest identifier. -/
def maxIdBytes : ℕ := 128

/-- `byte.is_ascii_alphanumeric() || matches!(byte, b'.' | b'_' | b'-')`. -/
def isIdByte (byte : UInt8) : Bool :=
  (48 ≤ byte && byte ≤ 57) || (65 ≤ byte && byte ≤ 90) || (97 ≤ byte && byte ≤ 122) ||
    byte == 46 || byte == 95 || byte == 45

/-- A text of `least` to `most` letters, digits, dots, underscores and dashes. -/
def isIdentifier (least most : ℕ) (value : String) : Bool :=
  least ≤ (utf8 value).length && (utf8 value).length ≤ most && (utf8 value).all isIdByte

/-- Whether a text is an identifier. -/
def isId (value : String) : Bool := isIdentifier 1 maxIdBytes value

/-- An identifier; the label says of what. -/
def validateId (value label : String) : Except AuthenticationError Unit :=
  require (isId value) (AuthenticationError.new
    s!"{label} must contain 1 to {maxIdBytes} ASCII letters, digits, '.', '_', or '-'")

/-- The shortest nonce. -/
def minNonceBytes : ℕ := 16

/-- The longest nonce. -/
def maxNonceBytes : ℕ := 160

/-- A nonce is an identifier of the two lengths. -/
def validateNonce (nonce : String) : Except AuthenticationError Unit :=
  require (isIdentifier minNonceBytes maxNonceBytes nonce) (AuthenticationError.new
    (s!"nonce must contain {minNonceBytes} to {maxNonceBytes} ASCII letters, digits, " ++
      "'.', '_', or '-'"))

/-- Base64 text of exactly `length` bytes. -/
def decodeExact [Base64] (length : ℕ) (encoded label : String) :
    Except AuthenticationError Bytes := do
  let bytes ← (Base64.decode encoded).mapError fun error =>
    AuthenticationError.new s!"invalid base64 {label}: {error}"
  require (bytes.length = length) (AuthenticationError.new
    s!"{label} must decode to {length} bytes; observed {bytes.length}")
  pure bytes

/-! ## Pieces of a canonical payload -/

/-- The error of a text that is too long. -/
def valueTooLong : AuthenticationError := .new "value exceeds canonical payload limit"

/-- A text, with its length before it. -/
def appendValue (text : String) : Encoder AuthenticationError Unit := appendString valueTooLong text

/-! ## Texts of configuration values -/

/-- `str::split`: the pieces between the separators, of which there is at least one. -/
def split (separator : Char) : List Char → List (List Char)
  | [] => [[]]
  | c :: text =>
    if c = separator then [] :: split separator text
    else match split separator text with
      | [] => [[c]]
      | piece :: pieces => (c :: piece) :: pieces

/-- `str::split_once`. -/
def splitOnce (separator : Char) (text : List Char) : Option (List Char × List Char) :=
  match text.span (· ≠ separator) with
  | (_, []) => none
  | (first, _ :: second) => some (first, second)

/-- The entries of a comma-separated list, trimmed; empty ones are skipped. -/
def commaSeparated (text : String) : List String :=
  ((split ',' text.toList).map (String.ofList <| trim <| String.ofList ·)).filter (· ≠ "")

/-! ## The parameters, instantiated -/

section Instances

/-- The digit of a number below 64. -/
def base64Digit (n : ℕ) : Char :=
  if n < 26 then Char.ofNat (65 + n)
  else if n < 52 then Char.ofNat (71 + n)
  else if n < 62 then Char.ofNat (n - 4)
  else if n = 62 then '+'
  else '/'

/-- The value of a digit. -/
def base64Value (c : Char) : Option ℕ :=
  let n := c.toNat
  if 65 ≤ n ∧ n < 91 then some (n - 65)
  else if 97 ≤ n ∧ n < 123 then some (n - 71)
  else if 48 ≤ n ∧ n < 58 then some (n + 4)
  else if n = 43 then some 62
  else if n = 47 then some 63
  else none

/-- Three bytes are four digits; the end is padded. -/
def base64Digits : Bytes → List Char
  | [] => []
  | [a] => [base64Digit (a.toNat / 4), base64Digit (a.toNat % 4 * 16), '=', '=']
  | [a, b] => [base64Digit (a.toNat / 4), base64Digit (a.toNat % 4 * 16 + b.toNat / 16),
      base64Digit (b.toNat % 16 * 4), '=']
  | a :: b :: c :: bytes =>
    base64Digit (a.toNat / 4) :: base64Digit (a.toNat % 4 * 16 + b.toNat / 16) ::
      base64Digit (b.toNat % 16 * 4 + c.toNat / 64) :: base64Digit (c.toNat % 64) ::
      base64Digits bytes

/-- Groups of four digits; the last one may be padded, and then its spare bits are zero. -/
def base64Bytes : List Char → Option Bytes
  | [] => some []
  | [a, b, '=', '='] => do
    let x ← base64Value a
    let y ← base64Value b
    if y % 16 = 0 then some [UInt8.ofNat (x * 4 + y / 16)] else none
  | [a, b, c, '='] => do
    let x ← base64Value a
    let y ← base64Value b
    let z ← base64Value c
    if z % 4 = 0 then
      some [UInt8.ofNat (x * 4 + y / 16), UInt8.ofNat (y % 16 * 16 + z / 4)]
    else none
  | a :: b :: c :: d :: digits => do
    let x ← base64Value a
    let y ← base64Value b
    let z ← base64Value c
    let w ← base64Value d
    let bytes ← base64Bytes digits
    some (UInt8.ofNat (x * 4 + y / 16) :: UInt8.ofNat (y % 16 * 16 + z / 4) ::
      UInt8.ofNat (z % 4 * 64 + w) :: bytes)
  | _ => none

/-- The standard alphabet, without the texts of the errors. -/
@[reducible]
def standardBase64 : Base64 where
  decode text := (base64Bytes text.toList).elim (.error "invalid") .ok
  encode bytes := String.ofList (base64Digits bytes)

lemma base64Value_digit {n : ℕ} (h : n < 64) : base64Value (base64Digit n) = some n := by
  revert n
  decide

lemma base64Digit_ne {n : ℕ} (h : n < 64) : base64Digit n ≠ '=' := by
  revert n
  decide

/-- Digits before the last group. -/
theorem base64Bytes_cons {a b c d : Char} (hd : d ≠ '=') (digits : List Char) :
    base64Bytes (a :: b :: c :: d :: digits) = (do
      let x ← base64Value a
      let y ← base64Value b
      let z ← base64Value c
      let w ← base64Value d
      let bytes ← base64Bytes digits
      some (UInt8.ofNat (x * 4 + y / 16) :: UInt8.ofNat (y % 16 * 16 + z / 4) ::
        UInt8.ofNat (z % 4 * 64 + w) :: bytes)) := by
  rw [base64Bytes]
  · exact fun _ h => absurd h hd
  · exact fun h => absurd h hd

lemma base64Bytes_digits (bytes : Bytes) : base64Bytes (base64Digits bytes) = some bytes := by
  have hbyte (n : ℕ) (a : UInt8) (h : n = a.toNat) : UInt8.ofNat n = a := by
    rw [h, UInt8.ofNat_toNat]
  fun_induction base64Digits bytes with
  | case1 => rfl
  | case2 a =>
    have ha := a.toNat_lt
    simp (disch := omega) only [base64Bytes, base64Value_digit, bind_eq_bind,
      bind_some]
    rw [if_pos (by omega), hbyte _ a (by omega)]
  | case3 a b =>
    have ha := a.toNat_lt
    have hb := b.toNat_lt
    have hthird : base64Digit (b.toNat % 16 * 4) ≠ '=' := base64Digit_ne (by omega)
    simp (disch := omega) only [base64Bytes, base64Value_digit, bind_eq_bind,
      bind_some]
    rw [if_pos (by omega), hbyte _ a (by omega), hbyte _ b (by omega)]
  | case4 a b c bytes ih =>
    have ha := a.toNat_lt
    have hb := b.toNat_lt
    have hc := c.toNat_lt
    rw [base64Bytes_cons (base64Digit_ne (by omega))]
    simp (disch := omega) only [base64Value_digit, bind_eq_bind, bind_some, ih]
    rw [hbyte _ a (by omega), hbyte _ b (by omega), hbyte _ c (by omega)]

/-- Stands for the signature scheme where the model is evaluated: a signature is a checksum of
the key and the message, and a key is its own public key. -/
@[reducible]
def checksumEd25519 : Ed25519 where
  verifyingKey _ := .ok ()
  verifyStrict key message signature := signature == checksum key message
  publicKey seed := seed
  sign := checksum
where
  checksum (key message : Bytes) : Bytes :=
    beBytes 64 ((key ++ message).foldl (fun sum byte => (sum * 257 + byte.toNat + 1) % 2 ^ 500) 0)

/-- Stands for SHA-256 where the model is evaluated. -/
@[reducible]
def checksumSha256 : Sha256 where
  digest bytes :=
    beBytes 32 (bytes.foldl (fun sum byte => (sum * 257 + byte.toNat + 1) % 2 ^ 250) 0)

lemma lawful_standardBase64 : @LawfulBase64 standardBase64 :=
  @LawfulBase64.mk standardBase64 fun bytes => by
    show (base64Bytes (String.ofList (base64Digits bytes)).toList).elim _ _ = _
    rw [String.toList_ofList, base64Bytes_digits, elim_some]

lemma lawful_checksumEd25519 : @LawfulEd25519 checksumEd25519 :=
  @LawfulEd25519.mk checksumEd25519 (fun _ _ _ => beq_self_eq_true _)
    fun _ _ _ => length_beBytes

lemma lawful_checksumSha256 : @LawfulSha256 checksumSha256 :=
  @LawfulSha256.mk checksumSha256 fun _ => length_beBytes

end Instances

end InferLab.ServiceAuth
