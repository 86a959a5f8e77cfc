import KernelForge.Disk.Files

/-!
# Program files

A program file is the machine code of a program that the host has, or a text that names its
interpreter in its first line. Interpreters may be texts themselves, a few times over.
-/

namespace KernelForge.Shell

/-- The programs that the host has. -/
inductive Program where
  /-- The shell. -/
  | shell
  /-- Removes files. -/
  | remove
  /-- Makes directories. -/
  | makeDirectory
  /-- Writes words. -/
  | echo
  /-- Writes arguments in a format. -/
  | format
  /-- Shows the current directory. -/
  | place
  /-- Succeeds. -/
  | succeed
  /-- Fails. -/
  | fail
  /-- Tells whether a condition holds. -/
  | inquire
  /-- Tells whether a condition between brackets holds. -/
  | bracket
  deriving DecidableEq

namespace Program

/-- All programs. -/
def all : List Program :=
  [shell, remove, makeDirectory, echo, format, place, succeed, fail, inquire, bracket]

/-- The name of a program. -/
def name : Program → String
  | shell => "sh"
  | remove => "rm"
  | makeDirectory => "mkdir"
  | echo => "echo"
  | format => "printf"
  | place => "pwd"
  | succeed => "true"
  | fail => "false"
  | inquire => "test"
  | bracket => "["

/-- The program with a name. -/
def named? (name : String) : Option Program := all.find? (·.name == name)

end Program

/-- How many bytes of a program file are looked at. -/
def headLength : Nat := 256

/-- Whether a byte is a gap in the first line of a text. -/
def isGap (b : UInt8) : Bool := b == 0x20 || b == 0x09

/-- The first line of a text behind its mark, without the gaps at its end. A line that goes on
behind what is looked at, or holds a zero byte, counts as far as it is looked at, if the interpreter
ends before that. -/
def firstLine? (head : Bytes) : Option Bytes :=
  let isEnd (b : UInt8) := b == 0x0A || b == 0
  let trim (line : Bytes) := (line.reverse.dropWhile isGap).reverse
  if (head.dropWhile (!isEnd ·)).head? = some 0x0A then some (trim (head.takeWhile (!isEnd ·)))
  else if (head.dropWhile isGap).any fun b ↦ isGap b || b == 0 then some (trim head.dropLast)
  else none

/-- The interpreter and its option in the first line of a text. A name ends at a gap or at a zero
byte, and only a gap has an option behind it. -/
def interpreterLine? (content : Bytes) : Option (Bytes × List Bytes) :=
  match (content ++ List.replicate headLength 0).take headLength with
  | 0x23 :: 0x21 :: head => do
    let line := (← firstLine? head).dropWhile isGap
    let isInName (b : UInt8) := !isGap b && b ≠ 0
    let option := match line.dropWhile isInName with
      | [] => []
      | b :: rest => if b = 0 then [] else [(rest.dropWhile isGap).takeWhile (· ≠ 0)]
    if line = [] then none else some (line.takeWhile isInName, option)
  | _ => none

/-- The program behind a path, through at most `levels` interpreters, with all its words. -/
def findProgram (f : Files) (p : Path) (words : List Bytes) :
    (levels : Nat) → Except Cause (Program × List Bytes)
  | 0 => .error .tooManyLinks
  | levels + 1 => do
    match ← f.node p with
    | .machine _ name =>
      match Program.named? name with
      | some program => .ok (program, words)
      | none => .error .notRunnable
    | .file _ content true =>
      match interpreterLine? content with
      | some ([], _) => .error .denied
      | some (name, option) =>
        findProgram f ⟨name⟩ (name :: option ++ p.bytes :: words.tail) levels
      | none => .error .notRunnable
    | _ => .error .denied

/-- How many interpreters may be behind a program, and the program itself. -/
def interpreterLevels : Nat := 5

end KernelForge.Shell
