import KernelForge.Shell.Run

/-!
# Child processes

A child process runs a program with arguments in a directory of its own and reads nothing. It goes
to its directory first and looks for the program from there.
-/

namespace KernelForge

/-- A program with its arguments and the directory it runs in. -/
structure CommandLine where
  /-- The program file. -/
  program : Path
  /-- The arguments. -/
  arguments : List Bytes
  /-- The directory of the process. -/
  directory : Path

namespace CommandLine

/-- How a word is shown; one that holds a zero byte cannot be. -/
def shownWord (word : Bytes) : String :=
  if 0 ∈ word then "<string-with-nul>" else Utf8.text word

/-- The words of a command, the program first. -/
def words (c : CommandLine) : List Bytes := c.program.bytes :: c.arguments

/-- The command on one line. -/
def render (c : CommandLine) : String := String.intercalate " " (c.words.map shownWord)

end CommandLine

/-- How a process ended and what it wrote. -/
structure Completed where
  /-- The exit status. -/
  status : Nat
  /-- What was written to the standard output. -/
  stdout : Bytes
  /-- What was written to the standard error output. -/
  stderr : Bytes

namespace Completed

/-- Whether the process ended well. -/
def success (c : Completed) : Bool := c.status == 0

/-- The status in words. -/
def statusText (c : Completed) : String := "exit status: " ++ toString c.status

end Completed

namespace Process

/-- What a program did: its status and what it wrote. -/
def completed (s : Shell.Session) : Completed :=
  ⟨s.status % 256, Bytes.ofChars (s.streams.recorded 1), Bytes.ofChars (s.streams.recorded 2)⟩

/-- Runs a command and waits for its end. A program without a slash in its name is none of the files
of this tree. -/
def run (c : CommandLine) : Act Files Cause Completed := Act.ofRun fun f ↦
  if (c.directory.bytes :: c.words).any (·.contains 0) then (.error .zeroInWord, f)
  else
    match (Files.changeDirectory c.directory).runFrom f with
    | (.error cause, _) => (.error cause, f)
    | (.ok (), child) =>
      if !c.program.bytes.contains Path.slash then (.error .missing, f)
      else
        match Shell.findProgram child c.program c.words Shell.interpreterLevels with
        | .error cause => (.error cause, f)
        | .ok (program, words) =>
          let act := Shell.runProgram (Shell.runAt Shell.depthLimit) program (words.map Bytes.chars)
          let s := (act.runFrom (.fresh child .initial Shell.usualEnvironment)).2
          (.ok (completed s), { f with disk := s.files.disk })

end Process

end KernelForge
