/-!
# Binary floating-point formats

A number in a binary format is carried by its bits. `Format.decode` reads them as a sign and an
integer multiple of a power of two; `Format.encode` rounds such a value to the nearest pattern of
the format, a tie going to the even one.
-/

namespace KernelForge

/-- A double-precision number, carried by its bits. -/
structure Double where
  /-- Sign, eleven exponent bits, fifty-two fraction bits. -/
  bits : UInt64
  deriving DecidableEq

/-- A single-precision number, carried by its bits. -/
structure Single where
  /-- Sign, eight exponent bits, twenty-three fraction bits. -/
  bits : UInt32
  deriving DecidableEq

namespace Binary

/-- The widths of the two fields after the sign. -/
structure Format where
  /-- The width of the exponent field. -/
  exponentBits : Nat
  /-- The width of the fraction field. -/
  fractionBits : Nat
  deriving DecidableEq

/-- Half precision. -/
def half : Format := ⟨5, 10⟩

/-- Single precision cut to sixteen bits. -/
def brain : Format := ⟨8, 7⟩

/-- Single precision. -/
def single : Format := ⟨8, 23⟩

/-- Double precision. -/
def double : Format := ⟨11, 52⟩

/-- What a pattern stands for. -/
inductive Value where
  /-- No number; the fraction field is kept. -/
  | notANumber (negative : Bool) (fraction : Nat)
  /-- An infinity. -/
  | infinite (negative : Bool)
  /-- The number `significand * 2 ^ exponent`, with its sign. -/
  | finite (negative : Bool) (significand : Nat) (exponent : Int)
  deriving DecidableEq

namespace Format

/-- The pattern of the exponent field that marks infinities and patterns that are no number. -/
def topExponent (f : Format) : Nat := (1 <<< f.exponentBits) - 1

/-- The power of two of the last place of the smallest numbers. -/
def leastExponent (f : Format) : Int :=
  2 - ((1 <<< (f.exponentBits - 1) : Nat) : Int) - (f.fractionBits : Int)

/-- The place value of the sign. -/
def signPlace (f : Format) : Nat := 1 <<< (f.exponentBits + f.fractionBits)

/-- The pattern of positive infinity. -/
def infinity (f : Format) : Nat := f.topExponent <<< f.fractionBits

/-- The leading fraction bit, which marks a quiet pattern. -/
def quietBit (f : Format) : Nat := 1 <<< (f.fractionBits - 1)

/-- What a pattern stands for. -/
def decode (f : Format) (bits : Nat) : Value :=
  let negative := bits / f.signPlace % 2 == 1
  let exponent := (bits >>> f.fractionBits) % (1 <<< f.exponentBits)
  let fraction := bits % (1 <<< f.fractionBits)
  if exponent = f.topExponent then
    if fraction = 0 then .infinite negative else .notANumber negative fraction
  else if exponent = 0 then .finite negative fraction f.leastExponent
  else
    .finite negative ((1 <<< f.fractionBits) + fraction) (f.leastExponent + (exponent - 1 : Nat))

/-- The quotient of `n` by `2 ^ shift`, rounded to the nearest integer, a tie to the even one. -/
def roundShift (n shift : Nat) : Nat :=
  let unit := 1 <<< shift
  let quotient := n / unit
  let twice := 2 * (n % unit)
  if unit < twice ∨ (twice = unit ∧ quotient % 2 = 1) then quotient + 1 else quotient

/-- The pattern nearest to `significand * 2 ^ exponent`. Since patterns count the multiples of the
last place upwards, a carry out of the fraction leads to the right pattern by itself. -/
def roundFinite (f : Format) (significand : Nat) (exponent : Int) : Nat :=
  if significand = 0 then 0
  else
    let length : Int := Nat.log2 significand + 1
    let place := max (exponent + length - (f.fractionBits + 1)) f.leastExponent
    let count :=
      if place ≤ exponent then significand <<< (exponent - place).toNat
      else roundShift significand (place - exponent).toNat
    min (((place - f.leastExponent).toNat <<< f.fractionBits) + count) f.infinity

/-- `pattern` with the given sign. -/
def signed (f : Format) (negative : Bool) (pattern : Nat) : Nat :=
  if negative then f.signPlace + pattern else pattern

/-- The pattern of a value: exact where the format has it, the nearest one otherwise. -/
def encode (f : Format) : Value → Nat
  | .notANumber negative fraction => f.signed negative (f.infinity + fraction)
  | .infinite negative => f.signed negative f.infinity
  | .finite negative significand exponent => f.signed negative (f.roundFinite significand exponent)

end Format

/-- The pattern in `target` for a pattern of `source`. A pattern that is no number keeps the leading
bits of its fraction and becomes quiet. -/
def convert (source target : Format) (bits : Nat) : Nat :=
  match source.decode bits with
  | .notANumber negative fraction =>
    let kept := (fraction <<< target.fractionBits) >>> source.fractionBits
    target.encode (.notANumber negative (kept ||| target.quietBit))
  | value => target.encode value

/-- The integer part of a value, kept between `low` and `high`; what is no number counts as zero. -/
def Value.clamp (low high : Int) : Value → Int
  | .notANumber _ _ => 0
  | .infinite negative => if negative then low else high
  | .finite negative significand exponent =>
    let whole := if 0 ≤ exponent then significand <<< exponent.toNat
      else significand >>> (-exponent).toNat
    max low (min high (if negative then -(whole : Int) else whole))

/-- Whether a value is zero, of either sign. -/
def Value.isZero : Value → Bool
  | .finite _ significand _ => significand == 0
  | _ => false

end Binary

/-- What a double stands for. -/
def Double.value (x : Double) : Binary.Value := Binary.double.decode x.bits.toNat

/-- The nearest double to `n * 2 ^ exponent`. -/
def Double.ofInt (n : Int) (exponent : Int) : Double :=
  ⟨UInt64.ofNat (Binary.double.encode (.finite (n < 0) n.natAbs exponent))⟩

/-- What a single stands for. -/
def Single.value (x : Single) : Binary.Value := Binary.single.decode x.bits.toNat

/-- The nearest single. -/
def Double.toSingle (x : Double) : Single :=
  ⟨UInt32.ofNat (Binary.convert Binary.double Binary.single x.bits.toNat)⟩

/-- The same number in double precision. -/
def Single.toDouble (x : Single) : Double :=
  ⟨UInt64.ofNat (Binary.convert Binary.single Binary.double x.bits.toNat)⟩

/-- The nearest half-precision pattern. -/
def Double.toHalf (x : Double) : UInt16 :=
  UInt16.ofNat (Binary.convert Binary.double Binary.half x.bits.toNat)

/-- The nearest pattern of single precision cut to sixteen bits. The low 32 bits of the double are
left out before rounding, except that they still tell an infinity from what is no number. -/
def Double.toBrain (x : Double) : UInt16 :=
  let bits := x.bits.toNat
  match x.value with
  | .notANumber _ _ => UInt16.ofNat (Binary.convert Binary.double Binary.brain bits)
  | _ => UInt16.ofNat (Binary.convert Binary.double Binary.brain ((bits >>> 32) <<< 32))

end KernelForge
