/-!
# Numbers in scripts

A number has blanks, a sign, a prefix for its base and digits. What does not fit a word of
sixty-four bits is cut at the greatest or least value.
-/

namespace KernelForge.Shell

/-- The value of a digit in bases up to thirty-six. -/
def digitValue? (c : Char) : Option Nat :=
  if c.isDigit then some (c.toNat - 48)
  else if 'a' ≤ c && c ≤ 'z' then some (c.toNat - 87)
  else if 'A' ≤ c && c ≤ 'Z' then some (c.toNat - 55)
  else none

/-- Whether a character is a digit in a base. -/
def isDigitIn (base : Nat) (c : Char) : Bool := (digitValue? c).any (· < base)

/-- The number that digits write in a base. -/
def digitsValue (base : Nat) (digits : List Char) : Nat :=
  digits.foldl (fun n c ↦ base * n + (digitValue? c).getD 0) 0

/-- The number that decimal digits write. -/
def decimalValue (digits : List Char) : Nat := digitsValue 10 digits

/-- Whether a character is a blank before or behind a number. -/
def isSpace (c : Char) : Bool := " \t\n\x0b\x0c\x0d".toList.contains c

/-- What was read as a number. -/
structure Scanned where
  /-- Whether a minus sign was read. -/
  negative : Bool
  /-- The magnitude. -/
  magnitude : Nat
  /-- What follows the number. -/
  rest : List Char

/-- The digits at the beginning of a text, and what follows them. A prefix tells the base unless one
is given; without digits nothing is read. -/
def scanDigits (base : Option Nat) (text : List Char) : Option (Nat × List Char) :=
  let plain (base : Nat) (digits : List Char) :=
    if (digits.takeWhile (isDigitIn base)).isEmpty then none
    else some (digitsValue base (digits.takeWhile (isDigitIn base)),
      digits.dropWhile (isDigitIn base))
  match base, text with
  | some base, text => plain base text
  | none, '0' :: x :: rest =>
    if x = 'x' || x = 'X' then (plain 16 rest).or (some (0, x :: rest))
    else plain 8 ('0' :: x :: rest)
  | none, text => plain 10 text

/-- The number at the beginning of a text; where there is none, the rest is the whole text. -/
def scanNumber (base : Option Nat) (text : List Char) : Scanned :=
  let (negative, digits) := match text.dropWhile isSpace with
    | '-' :: rest => (true, rest)
    | '+' :: rest => (false, rest)
    | rest => (false, rest)
  match scanDigits base digits with
  | some (magnitude, rest) => ⟨negative, magnitude, rest⟩
  | none => ⟨false, 0, text⟩

namespace Scanned

/-- The number as it was written. -/
def exact (s : Scanned) : Int := if s.negative then -(s.magnitude : Int) else s.magnitude

/-- The number as a signed word. -/
def signed (s : Scanned) : Int :=
  if s.exact < Int64.minValue.toInt then Int64.minValue.toInt
  else if Int64.maxValue.toInt < s.exact then Int64.maxValue.toInt
  else s.exact

/-- The number as an unsigned word, in which negative numbers count down from the top. -/
def unsigned (s : Scanned) : Int :=
  if UInt64.size ≤ s.magnitude then UInt64.size - 1 else s.exact % UInt64.size

end Scanned

/-- The number that a whole text writes in base ten, with blanks around it. -/
def integer? (text : List Char) : Option Int :=
  let s := scanNumber (some 10) text
  if s.rest = text || s.exact ≠ s.signed || !s.rest.all isSpace then none else some s.exact

/-- The number that a variable holds: one in any base, and zero for nothing. -/
def variableInteger? (text : List Char) : Option Int :=
  let s := scanNumber none text
  if s.exact ≠ s.signed || !s.rest.all isSpace then none else some s.exact

/-- A number in decimal digits. -/
def showInteger (n : Int) : List Char := (toString n).toList

end KernelForge.Shell
