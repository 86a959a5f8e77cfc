import KernelForge.Binary.Format

/-!
# The shortest decimal text of a double

A double is written with the fewest decimal digits that read back as the same double, and of those
with the nearest. The search runs over the decimal grids of 1, 2, … 17 digits; on each it tries the
two neighbours of the exact value.
-/

namespace KernelForge.Binary

/-- Decimal digits and the place of the point: the number `0.d₁d₂… * 10 ^ point`. -/
structure Digits where
  /-- The digits, the first not zero. -/
  digits : List Char
  /-- The power of ten of the place before the first digit. -/
  point : Int

/-- The numbers that round to a given double: those between `low / scale` and `high / scale`, the
ends included if `closed`; `centre / scale` is the double itself. -/
structure Interval where
  /-- The lower end. -/
  low : Nat
  /-- The double. -/
  centre : Nat
  /-- The upper end. -/
  high : Nat
  /-- The common denominator. -/
  scale : Nat
  /-- Whether the ends belong to the interval. -/
  closed : Bool

/-- The numbers that round to `significand * 2 ^ exponent`. Below a power of two the gap is half as
wide, unless it is the least one. -/
def Interval.around (significand : Nat) (exponent : Int) : Interval :=
  let halved := significand = 1 <<< double.fractionBits ∧ double.leastExponent < exponent
  let up := (exponent - 2).toNat
  { low := (4 * significand - if halved then 1 else 2) <<< up
    centre := (4 * significand) <<< up
    high := (4 * significand + 2) <<< up
    scale := 1 <<< (2 - exponent).toNat
    closed := significand % 2 == 0 }

/-- Whether `count * 10 ^ place` lies in the interval. -/
def Interval.contains (i : Interval) (count : Nat) (place : Int) : Bool :=
  let n := count * Nat.pow 10 place.toNat * i.scale
  let shrink := Nat.pow 10 (-place).toNat
  if i.closed then i.low * shrink ≤ n && n ≤ i.high * shrink
  else i.low * shrink < n && n < i.high * shrink

/-- The power of ten just above the double. -/
def Interval.point (i : Interval) : Int :=
  if i.scale ≤ i.centre then (Nat.toDigits 10 (i.centre / i.scale)).length
  else if 10 * i.centre ≥ i.scale then 0
  else 1 - ((Nat.toDigits 10 ((i.scale - 1) / i.centre)).length : Int)

/-- The best number of `length` digits in the interval, if there is one. -/
def Interval.onGrid (i : Interval) (length : Nat) : Option (Nat × Int) :=
  let place := i.point - length
  let numerator := i.centre * Nat.pow 10 (-place).toNat
  let denominator := i.scale * Nat.pow 10 place.toNat
  let below := numerator / denominator
  let rest := 2 * (numerator % denominator)
  let nearer := if rest < denominator then below else below + 1
  let farther := if rest < denominator then below + 1 else below
  if i.contains nearer place then some (nearer, place)
  else if i.contains farther place then some (farther, place)
  else none

/-- The fewest digits that read back as `significand * 2 ^ exponent`, which is not zero. -/
def shortest (significand : Nat) (exponent : Int) : Digits :=
  let i := Interval.around significand exponent
  let (count, place) := ((List.range' 1 17).findSome? i.onGrid).getD (0, 0)
  let written := Nat.toDigits 10 count
  let digits := (written.reverse.dropWhile (· = '0')).reverse
  ⟨digits, place + written.length⟩

/-- Digits with a point, and at least one digit on either side of it. -/
def Digits.positional (d : Digits) : List Char :=
  let n := d.digits.length
  if d.point ≤ 0 then ['0', '.'] ++ List.replicate (-d.point).toNat '0' ++ d.digits
  else if (n : Int) ≤ d.point then d.digits ++ List.replicate (d.point.toNat - n) '0' ++ ['.', '0']
  else d.digits.take d.point.toNat ++ ['.'] ++ d.digits.drop d.point.toNat

/-- Digits with a point after the first, and a power of ten. -/
def Digits.scientific (d : Digits) : List Char :=
  d.digits.take 1 ++ (if d.digits.length ≤ 1 then [] else '.' :: d.digits.drop 1) ++ ['e'] ++
    (toString (d.point - 1)).toList

/-- Digits are written with a plain point from 10⁻⁴ up to, and without, 10¹⁶. -/
def Digits.render (d : Digits) : List Char :=
  if -4 < d.point ∧ d.point ≤ 16 then d.positional else d.scientific

end KernelForge.Binary

/-- The text of a double in a report. -/
def KernelForge.Double.text (x : Double) : String :=
  match x.value with
  | .notANumber _ _ => "NaN"
  | .infinite negative => if negative then "-inf" else "inf"
  | .finite negative significand exponent =>
    let body := if significand = 0 then ['0', '.', '0']
      else (Binary.shortest significand exponent).render
    String.ofList (if negative then '-' :: body else body)
