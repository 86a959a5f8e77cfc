import KernelForge.Binary.Format
import KernelForge.Shell.Number

/-!
# Decimal fractions in scripts

A fraction is read as the nearest double and written with a given number of places, rounded from the
exact value of that double; a tie goes to the even digit.
-/

namespace KernelForge.Shell

/-- What a text writes as a number. -/
inductive Numeral where
  /-- A quotient with its sign. -/
  | ratio (negative : Bool) (numerator denominator : Nat)
  /-- An infinity. -/
  | infinite (negative : Bool)
  /-- No number. -/
  | notANumber (negative : Bool)

namespace Numeral

/-- The pattern of a format that is nearest to a numeral; enough bits of a quotient are kept, and
one for what is left. -/
def encode (f : Binary.Format) : Numeral → Nat
  | ratio negative numerator denominator =>
    let shift := f.fractionBits + 14 + Nat.log2 denominator - Nat.log2 numerator
    let quotient := (numerator <<< shift) / denominator
    let left := if (numerator <<< shift) % denominator = 0 then 0 else 1
    f.encode (.finite negative (2 * quotient + left) (-(shift : Int) - 1))
  | infinite negative => f.encode (.infinite negative)
  | notANumber negative => f.encode (.notANumber negative f.quietBit)

/-- What a format makes of a numeral. -/
def valueIn (f : Binary.Format) (n : Numeral) : Binary.Value := f.decode (n.encode f)

/-- Whether a quotient is too great for a format, or so small that the format cuts it: its multiple
of the last place of the smallest numbers is no integer and stays below the least one with all
bits. -/
def isBeyond (f : Binary.Format) : Numeral → Bool
  | ratio _ numerator denominator =>
    let places := (-f.leastExponent).toNat
    let multiple := numerator <<< places
    (ratio false numerator denominator).encode f = f.infinity ||
      (multiple % denominator ≠ 0 &&
        4 * multiple < denominator * ((1 <<< (f.fractionBits + 2)) - 1))
  | _ => false

end Numeral

/-- The digits of a fraction at the beginning of a text, how many stand behind the point, and what
follows; nothing without digits. -/
def scanFraction (text : List Char) : Option (List Char × Nat × List Char) :=
  let whole := text.takeWhile Char.isDigit
  let (places, rest) := match text.dropWhile Char.isDigit with
    | '.' :: rest => (rest.takeWhile Char.isDigit, rest.dropWhile Char.isDigit)
    | rest => ([], rest)
  if whole = [] && places = [] then none
  else
    let rest := if whole = [] || places ≠ [] then rest
      else match text.dropWhile Char.isDigit with
        | '.' :: rest => rest
        | rest => rest
    some (whole ++ places, places.length, rest)

/-- The power at the beginning of a text, behind one of some letters, and what follows it. -/
def scanPower (letters : List Char) (text : List Char) : Int × List Char :=
  let power (negative : Bool) (rest : List Char) :=
    let digits := rest.takeWhile Char.isDigit
    if digits = [] then (0, text)
    else
      let n : Int := decimalValue digits
      (if negative then -n else n, rest.dropWhile Char.isDigit)
  match text with
  | [] => (0, text)
  | c :: rest =>
    if !letters.contains c then (0, text)
    else
      match rest with
      | '-' :: rest => power true rest
      | '+' :: rest => power false rest
      | rest => power false rest

/-- The hexadecimal fraction behind its prefix at the beginning of a text, as a multiple of a power
of two, and what follows. -/
def scanHexadecimal (text : List Char) : Option (Nat × Int × List Char) :=
  let isDigit := isDigitIn 16
  let whole := text.takeWhile isDigit
  let (places, rest) := match text.dropWhile isDigit with
    | '.' :: rest => (rest.takeWhile isDigit, rest.dropWhile isDigit)
    | rest => ([], rest)
  if whole = [] && places = [] then none
  else
    let (power, rest) := scanPower ['p', 'P'] rest
    some (digitsValue 16 (whole ++ places), power - 4 * places.length, rest)

/-- What follows a text in parentheses, if it holds letters, digits and underscores only. -/
def skipPayload (text : List Char) : List Char :=
  match text with
  | '(' :: rest =>
    match rest.dropWhile fun c ↦ c.isAlphanum || c = '_' with
    | ')' :: after => after
    | _ => text
  | text => text

/-- The words for what is no finite number, each a beginning of a text in any case. -/
def scanWord (negative : Bool) (text : List Char) : Option (Numeral × List Char) :=
  let lower := text.map Char.toLower
  if "infinity".toList.isPrefixOf lower then some (.infinite negative, text.drop 8)
  else if "inf".toList.isPrefixOf lower then some (.infinite negative, text.drop 3)
  else if "nan".toList.isPrefixOf lower then some (.notANumber negative, skipPayload (text.drop 3))
  else none

/-- The quotient of an integer times a power, where powers so great that only their size counts are
cut. -/
def scaledRatio (negative : Bool) (base n : Nat) (length : Nat) (power : Int) : Numeral :=
  let most : Int := 20000 + 4 * length
  let power := max (-most) (min most power)
  .ratio negative (n * Nat.pow base power.toNat) (Nat.pow base (-power).toNat)

/-- The number at the beginning of a text, and what follows it. -/
def scanNumeral (text : List Char) : Option (Numeral × List Char) :=
  let (negative, unsigned) := match text.dropWhile isSpace with
    | '-' :: rest => (true, rest)
    | '+' :: rest => (false, rest)
    | rest => (false, rest)
  let hexadecimal? := match unsigned with
    | '0' :: 'x' :: rest | '0' :: 'X' :: rest => scanHexadecimal rest
    | _ => none
  match hexadecimal?, scanFraction unsigned with
  | some (n, power, rest), _ => some (scaledRatio negative 2 n text.length power, rest)
  | none, some (digits, places, rest) =>
    let (power, rest) := scanPower ['e', 'E'] rest
    some (scaledRatio negative 10 (decimalValue digits) text.length (power - places), rest)
  | none, none => scanWord negative unsigned

/-- A quotient rounded to the nearest integer, a tie to the even one. -/
def roundQuotient (numerator denominator : Nat) : Nat :=
  let below := numerator / denominator
  let twice := 2 * (numerator % denominator)
  if denominator < twice || (twice = denominator && below % 2 = 1) then below + 1 else below

/-- Digits with zeros before them, up to a length. -/
def padDigits (length : Nat) (digits : List Char) : List Char :=
  List.replicate (length - digits.length) '0' ++ digits

/-- The digits before and behind the point of a quotient with a number of places. -/
def fixedDigits (numerator denominator places : Nat) : List Char × List Char :=
  let digits := padDigits (places + 1)
    (Nat.toDigits 10 (roundQuotient (numerator * Nat.pow 10 places) denominator))
  digits.splitAt (digits.length - places)

/-- The power of ten of the first digit of a quotient that is not zero. -/
def leadingPower (numerator denominator : Nat) : Int :=
  if denominator ≤ numerator then (Nat.toDigits 10 (numerator / denominator)).length - 1
  else if denominator ≤ 10 * numerator then -1
  else -((Nat.toDigits 10 ((denominator - 1) / numerator)).length : Int)

/-- The digits of a quotient, `places` of them behind the first, and the power of ten of the
first. -/
def powerDigits (numerator denominator places : Nat) : List Char × Int :=
  if numerator = 0 then (List.replicate (places + 1) '0', 0)
  else
    let power := leadingPower numerator denominator
    let scale := (places : Int) - power
    let count := roundQuotient (numerator * Nat.pow 10 scale.toNat)
      (denominator * Nat.pow 10 (-scale).toNat)
    let digits := Nat.toDigits 10 count
    if places + 1 < digits.length then (digits.take (places + 1), power + 1) else (digits, power)

/-- Digits on both sides of a point, which is left out where none stand behind it unless `point`. -/
def joinDigits (point : Bool) (whole fraction : List Char) : List Char :=
  if fraction = [] && !point then whole else whole ++ '.' :: fraction

/-- A power of ten with its sign and at least two digits. -/
def showPower (power : Int) : List Char :=
  'e' :: (if power < 0 then '-' else '+') :: padDigits 2 (Nat.toDigits 10 power.natAbs)

/-- The ways to write a fraction. -/
inductive FractionStyle where
  /-- With a fixed point. -/
  | fixed
  /-- With a power of ten. -/
  | power
  /-- The shorter one, without zeros at the end. -/
  | general
  deriving DecidableEq

/-- The magnitude of a value with a number of places; zeros at the end and a bare point are kept if
`full`. -/
def showMagnitude (style : FractionStyle) (places : Nat) (full : Bool) (x : Binary.Value) :
    List Char :=
  match x with
  | .notANumber .. => "nan".toList
  | .infinite _ => "inf".toList
  | .finite _ significand exponent =>
    let numerator := significand <<< exponent.toNat
    let denominator := 1 <<< (-exponent).toNat
    let withPower (places : Nat) (strip : List Char → List Char) :=
      let (digits, power) := powerDigits numerator denominator places
      joinDigits full (digits.take 1) (strip (digits.drop 1)) ++ showPower power
    let plain (places : Nat) (strip : List Char → List Char) :=
      let (whole, fraction) := fixedDigits numerator denominator places
      joinDigits full whole (strip fraction)
    match style with
    | .fixed => plain places id
    | .power => withPower places id
    | .general =>
      let wanted := if places = 0 then 1 else places
      let strip (digits : List Char) :=
        if full then digits else (digits.reverse.dropWhile (· = '0')).reverse
      let (_, power) := powerDigits numerator denominator (wanted - 1)
      if -4 ≤ power && power < wanted then plain (wanted - 1 - power).toNat strip
      else withPower (wanted - 1) strip

/-- The magnitude of a value behind its prefix in hexadecimal digits, of which `digits` at most
stand behind the point; without a number of places, zeros at the end are left out. -/
def showHexadecimal (digits : Nat) (places : Option Nat) (full : Bool) (x : Binary.Value) :
    List Char :=
  match x with
  | .notANumber .. => "nan".toList
  | .infinite _ => "inf".toList
  | .finite _ significand exponent =>
    let kept := min digits (places.getD digits)
    let count := roundQuotient significand (1 <<< (4 * (digits - kept)))
    let unit := 1 <<< (4 * kept)
    let shown := padDigits kept (if kept = 0 then [] else Nat.toDigits 16 (count % unit))
    let fraction := match places with
      | some places => shown ++ List.replicate (places - kept) '0'
      | none => (shown.reverse.dropWhile (· = '0')).reverse
    let power := if significand = 0 then 0 else exponent + 4 * digits
    joinDigits full (Nat.toDigits 16 (count / unit)) fraction ++
      'p' :: (if power < 0 then '-' else '+') :: Nat.toDigits 10 power.natAbs

/-- Whether a value has a minus sign. -/
def isNegative : Binary.Value → Bool
  | .notANumber negative _ => negative
  | .infinite negative => negative
  | .finite negative _ _ => negative

/-- Whether a value is a finite number. -/
def isFinite : Binary.Value → Bool
  | .finite .. => true
  | _ => false

end KernelForge.Shell
