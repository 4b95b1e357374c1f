import InferLab.Checks
import Mathlib.Data.Rat.Defs

/-!
# Worker runtime: floats, tokens and errors

The arithmetic of the runtime is a parameter: `FloatOps` lists the operations of one float
format as fixed functions, and nothing is assumed about them. `F` stands for `float`
throughout.

What the decoder throws is a `ModelError`. The sampler is a parameter, and what it throws is known
by its message.
-/

namespace InferLab.Worker

/-- The operations of one float format. -/
class FloatOps (F : Type) extends Zero F, Add F, Sub F, Mul F, Div F where
  /-- The float a decimal literal or a conversion from an integer denotes. -/
  ofRat : ℚ → F
  sqrt : F → F
  exp : F → F
  tanh : F → F
  negInf : F
  less : F → F → Bool
  equal : F → F → Bool
  isFinite : F → Bool
  isInf : F → Bool

/-- `std::bit_cast` between `float` and `std::uint32_t`. -/
class BitCast (F : Type) where
  toBits : F → UInt32
  ofBits : UInt32 → F

namespace FloatOps

variable {F : Type} [FloatOps F]

/-- `static_cast<float>(n)`. -/
def ofNat (n : ℕ) : F := ofRat (n : ℚ)

/-- `a <= b`. -/
def lessEqual (a b : F) : Bool := less a b || equal a b

/-- `std::max`, which returns its first argument unless that is less than the second. -/
def max (a b : F) : F := if less a b then b else a

/-- `std::min`, which returns its first argument unless the second is less. -/
def min (a b : F) : F := if less b a then b else a

/-- The loop `for (i = 0; i < n; ++i) total += term(i);`. -/
def accumulate (n : ℕ) (total : F) (term : ℕ → F) : F :=
  (List.range n).foldl (fun sum i => sum + term i) total

end FloatOps

/-- A `std::uint32_t` token ID. -/
abbrev Token := ℕ

/-- What the decoder throws, and the sampler. -/
inductive ModelError
  | attentionDimensions
  | attentionTileTokens
  | causalPositions
  | attentionInput
  | attentionNormalizer
  | forwardContextLength
  | forwardToken
  | keyValueBounds
  | cachedContextLength
  | cacheLength
  | cachedToken
  | sampler (message : String)
deriving Repr, DecidableEq

end InferLab.Worker
