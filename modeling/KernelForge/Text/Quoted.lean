import KernelForge.Text.Hidden

/-!
# Quoted text

A text in a report stands between double quotes. A quote and a backslash are escaped, the usual
controls have short escapes, and every other hidden character is written by its number.
-/

namespace KernelForge.Text

/-- The lower-case hexadecimal digits of `n`, without leading zeros. -/
def hexNumber (n : Nat) : List Char := Nat.toDigits 16 n

/-- How one character is written between quotes. -/
def escape (c : Char) : List Char :=
  if c = '"' then ['\\', '"']
  else if c = '\\' then ['\\', '\\']
  else if c = '\t' then ['\\', 't']
  else if c = '\r' then ['\\', 'r']
  else if c = '\n' then ['\\', 'n']
  else if c = '\x00' then ['\\', '0']
  else if isHidden c then ['\\', 'u', '\x7b'] ++ hexNumber c.toNat ++ ['\x7d']
  else [c]

/-- `s` between double quotes. -/
def quoted (s : String) : String :=
  String.ofList ('"' :: s.toList.flatMap escape ++ ['"'])

/-- Items between brackets, as a report shows a list. -/
def bracketed (items : List String) : String := "[" ++ String.intercalate ", " items ++ "]"

end KernelForge.Text
