import KernelForge.Shell.Pattern

/-!
# Trimming values

A value loses what a pattern matches at its beginning or at its end, where that is the shortest or
the longest piece. Several arguments are trimmed as one text, in which zero characters are between
them; a search from the left ends with the first of them, while one from the right runs over a tape
of more than the arguments.
-/

namespace KernelForge.Shell

/-- The text before the first zero character. -/
def firstText (text : List Char) : List Char := text.takeWhile (· ≠ '\x00')

/-- The text without its end behind the first of some places, or without its beginning before it. -/
def cutWhere (atEnd : Bool) (place? : Option Nat) (text : List Char) : List Char :=
  match place? with
  | some n => if atEnd then text.take n else text.drop n
  | none => text

/-- A text without what a pattern matches at its beginning or at its end. A match ends at a zero
character, and a search from the left does. -/
def trimText (atEnd longest : Bool) (pattern : List Marked) (text : List Char) : List Char :=
  let places := List.range (text.length + 1)
  let places :=
    if atEnd == longest then places.take ((firstText text).length + 1) else places.reverse
  let fits (n : Nat) : Bool :=
    matchesPattern pattern (firstText (if atEnd then text.drop n else text.take n))
  cutWhere atEnd (places.find? fits) text

/-! ## Several arguments -/

/-- Whether a character of an argument, between double quotes or not, has a sign before it on the
tape. -/
def isShielded (quoted : Bool) (c : Char) : Bool :=
  (0x81 ≤ c.toNat && c.toNat ≤ 0x88) || (quoted && "!*?[=~:/-]\\".toList.contains c)

/-- The arguments on the tape, and a zero character behind the last one. -/
def shielded (quoted : Bool) (text : List Char) : List Char :=
  (text.flatMap fun c ↦ if isShielded quoted c then ['\x81', c] else [c]) ++ ['\x00']

/-- A pattern as a text, in which backslashes quote. -/
def patternText (pattern : List Marked) : List Char :=
  pattern.flatMap fun m ↦ if m.quoted then ['\\', m.char] else [m.char]

/-- Arguments, between which zero characters are, without what a pattern matches at the beginning or
at the end, where a search from the right finds it. If the first argument has signs, the tape goes
on with the pattern and with that argument without its signs. The search goes back character by
character over the tape, from its end, and over the arguments, from theirs; it compares what it
finds on the tape, and cuts the arguments. A match at the beginning is one of the last argument on
the tape; where the search has reached the pattern, only what is before it counts. -/
def trimArguments (atEnd quoted : Bool) (pattern : List Marked) (text : List Char) : List Char :=
  let first := firstText text
  let value := shielded quoted text
  let model := patternText pattern
  let more := first.any (isShielded quoted)
  let tape := if more then value ++ model ++ '\x00' :: first ++ ['\x00'] else value
  let begins := if more then value.length + model.length + 1 else 0
  let matchesAs (model text : List Char) : Bool :=
    matchesPattern (model.map (⟨·, false⟩)) (firstText text)
  let fits (n : Nat) : Bool :=
    let position := tape.length - 1 - (text.length - n)
    if atEnd then matchesAs model (tape.drop position)
    else if begins ≤ position then matchesAs model ((tape.take position).drop begins)
    else if value.length ≤ position then matchesAs (model.take (position - value.length)) first
    else matchesAs model first
  cutWhere atEnd ((List.range (text.length + 1)).reverse.find? fits) text

/-- A value, or arguments with zero characters between them, without what a pattern matches. -/
def trimPattern (atEnd longest quoted : Bool) (pattern : List Marked) (text : List Char) :
    List Char :=
  if atEnd ≠ longest && text.contains '\x00' then trimArguments atEnd quoted pattern text
  else trimText atEnd longest pattern text

end KernelForge.Shell
