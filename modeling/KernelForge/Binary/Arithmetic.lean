import KernelForge.Binary.Format

/-!
# Single-precision arithmetic

Sums, differences and products are exact integer multiples of a power of two, rounded once. An
operand that is no number is answered, made quiet, the first one before the second; an operation
without a meaning answers the negative quiet pattern.
-/

namespace KernelForge.Single

open Binary

/-- The single with the pattern `n`. -/
def ofPattern (n : Nat) : Single := ⟨UInt32.ofNat n⟩

/-- The answer of an operation that has no meaning. -/
def indefinite : Single := ofPattern (single.encode (.notANumber true single.quietBit))

/-- The pattern for the integer `n * 2 ^ exponent`; `zeroSign` is the sign of zero. -/
def ofInt (n : Int) (exponent : Int) (zeroSign : Bool) : Single :=
  ofPattern (single.encode (.finite (if n = 0 then zeroSign else n < 0) n.natAbs exponent))

/-- The nearest single to an integer. -/
def ofInt64 (n : Int64) : Single := ofInt n.toInt 0 false

/-- `significand * 2 ^ (exponent - base)` with its sign, for `base` at most `exponent`. -/
def aligned (negative : Bool) (significand : Nat) (exponent base : Int) : Int :=
  let n := significand <<< (exponent - base).toNat
  if negative then -(n : Int) else n

/-- The quiet form of a pattern that is no number. -/
def quiet (negative : Bool) (fraction : Nat) : Single :=
  ofPattern (single.encode (.notANumber negative (fraction ||| single.quietBit)))

/-- The value of a sum. -/
def addValues : Value → Value → Single
  | .notANumber s m, _ => quiet s m
  | _, .notANumber s m => quiet s m
  | .infinite s, .infinite t =>
    if s = t then ofPattern (single.encode (.infinite s)) else indefinite
  | .infinite s, _ => ofPattern (single.encode (.infinite s))
  | _, .infinite s => ofPattern (single.encode (.infinite s))
  | .finite s m e, .finite t n f =>
    let base := min e f
    ofInt (aligned s m e base + aligned t n f base) base (s && t)

/-- The value of a product. -/
def mulValues : Value → Value → Single
  | .notANumber s m, _ => quiet s m
  | _, .notANumber s m => quiet s m
  | .infinite s, .infinite t => ofPattern (single.encode (.infinite (s != t)))
  | .infinite s, .finite t m _ | .finite t m _, .infinite s =>
    if m = 0 then indefinite else ofPattern (single.encode (.infinite (s != t)))
  | .finite s m e, .finite t n f => ofPattern (single.encode (.finite (s != t) (m * n) (e + f)))

/-- A value with the other sign; what is no number keeps its own. -/
def negateValue : Value → Value
  | .notANumber s m => .notANumber s m
  | .infinite s => .infinite (!s)
  | .finite s m e => .finite (!s) m e

/-- The rounded sum. -/
def add (x y : Single) : Single := addValues x.value y.value

/-- The rounded difference. -/
def sub (x y : Single) : Single := addValues x.value (negateValue y.value)

/-- The rounded product. -/
def mul (x y : Single) : Single := mulValues x.value y.value

end KernelForge.Single
