import KernelForge.Shell.Session

/-!
# Quotation

A program that complains of a name writes it between quotation marks: plainly, with backslashes
before what cannot stand for itself, or so that a shell would read the name back.
-/

namespace KernelForge.Shell

/-- Whether a character can be shown. -/
def isPrintable (c : Char) : Bool := 32 ≤ c.toNat && c.toNat < 127

/-- A character that cannot be shown, behind a backslash. -/
def escapedChar (c : Char) : List Char :=
  match "\x07\x08\x0c\n\x0d\t\x0b".toList.idxOf? c with
  | some i => ['\\', "abfnrtv".toList.getD i c]
  | none =>
    let n := c.toNat
    ['\\', Nat.digitChar (n / 64), Nat.digitChar (n / 8 % 8), Nat.digitChar (n % 8)]

/-- Whether a character stands for itself between quotation marks. -/
def isPlain (c : Char) : Bool := isPrintable c && c ≠ '\'' && c ≠ '\\'

/-- A character between quotation marks. -/
def plainChar (c : Char) : List Char :=
  if isPlain c then [c] else if isPrintable c then ['\\', c] else escapedChar c

/-- A text between quotation marks, in which backslashes escape. -/
def quotePlain (text : List Char) : List Char := '\'' :: text.flatMap plainChar ++ ['\'']

/-- The rest of a text between quotation marks as a shell reads it, where `escaping` tells whether
what was written last stands behind a dollar sign. -/
def quoteRest (escaping : Bool) : List Char → List Char
  | [] => ['\'']
  | c :: rest =>
    if c = '\'' then "'\\''".toList ++ quoteRest false rest
    else if isPrintable c then
      (if escaping then ['\'', '\''] else []) ++ c :: quoteRest false rest
    else (if escaping then [] else "'$'".toList) ++ escapedChar c ++ quoteRest true rest

/-- Whether a character means nothing to a shell. -/
def isInert (c : Char) : Bool := c.isAlphanum || "%+,-./:@]_".toList.contains c

/-- A text between quotation marks as a shell reads it. Double ones are used if there is a single
one in it and no character that means anything to a shell. Otherwise a text with a single one is
gone through twice, the second time from where the first one ended. -/
def quoteForShell (text : List Char) : List Char :=
  let opensPlain := text.head?.any fun c ↦ isInert c || " '#~".toList.contains c
  let isQuiet := text.tail.all fun c ↦ isInert c || c = ' ' || c = '\''
  if !text.contains '\'' then '\'' :: quoteRest false text
  else if opensPlain && isQuiet then '"' :: text ++ ['"']
  else '\'' :: quoteRest (text.getLast?.any (!isPrintable ·)) text

/-- A text as a shell reads it, with quotation marks only if they are needed. -/
def quoteIfNeeded (text : List Char) : List Char :=
  if text ≠ [] && text.all isInert then text
  else '\'' :: (text.flatMap fun c ↦ if c = '\'' then "'\\''".toList else [c]) ++ ['\'']

/-- Complains on behalf of a program. -/
def complainAs (program text : List Char) : Work Unit := do
  Work.put 2 (program ++ ": ".toList ++ text ++ ['\n'])
  Work.ends 1

/-- Complains of the arguments of a program. -/
def complainOfUse (program text : List Char) : Work Unit := do
  complainAs program text
  Work.put 2 ("Try '".toList ++ program ++ " --help' for more information.\n".toList)

/-- Complains of output that could not be written. -/
def checkOutput (program : List Char) : Work Unit := do
  if (← get).broken then complainAs program "write error: Bad file descriptor".toList

end KernelForge.Shell
