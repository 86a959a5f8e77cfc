/-!
# White space and letter case

White space is the Unicode property White_Space; letter case is touched in ASCII only.
-/

namespace KernelForge.Text

/-- The Unicode property White_Space. -/
def isBlank (c : Char) : Bool :=
  let n := c.toNat
  (0x09 ≤ n && n ≤ 0x0D) || n == 0x20 || n == 0x85 || n == 0xA0 || n == 0x1680 ||
    (0x2000 ≤ n && n ≤ 0x200A) || n == 0x2028 || n == 0x2029 || n == 0x202F || n == 0x205F ||
    n == 0x3000

/-- `cs` without the white space at its end. -/
def dropBlankEnd (cs : List Char) : List Char := (cs.reverse.dropWhile isBlank).reverse

/-- `cs` without the white space at either end. -/
def trimBlank (cs : List Char) : List Char := dropBlankEnd (cs.dropWhile isBlank)

/-- `s` without the white space at its end. -/
def trimEnd (s : String) : String := String.ofList (dropBlankEnd s.toList)

/-- `s` without the white space at either end. -/
def trim (s : String) : String := String.ofList (trimBlank s.toList)

/-- `s` with its ASCII letters in lower case. -/
def lower (s : String) : String := String.ofList (s.toList.map Char.toLower)

end KernelForge.Text
