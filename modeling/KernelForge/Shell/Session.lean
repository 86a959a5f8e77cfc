import KernelForge.Shell.Bucket
import KernelForge.Shell.Job
import KernelForge.Shell.Number
import KernelForge.Shell.Scan
import KernelForge.Shell.Script
import KernelForge.Shell.Stream
import KernelForge.Shell.Switch

/-!
# Sessions

A session is the state of a shell at work: the tree of files as its process sees it, its streams,
its variables and functions, and what it is about. Work changes a session and may leave the commands
it was among.
-/

namespace KernelForge.Shell

/-- What a variable holds, and how it is protected. -/
structure Binding where
  /-- The value, if there is one. -/
  value? : Option (List Char) := none
  /-- Whether programs get to know it. -/
  exported : Bool := false
  /-- Whether it stays as it is. -/
  readonly : Bool := false

/-- A program that was found by its name. -/
structure Found where
  /-- The name. -/
  name : List Char
  /-- Which of the directories that are searched holds it. -/
  place : Nat
  /-- Whether the current directory changed since. -/
  stale : Bool := false

/-- A command beside a shell that has not begun. -/
structure Start (σ : Type) where
  /-- The number of its process. -/
  process : Nat
  /-- The command. -/
  command : Command
  /-- What it begins with. -/
  session : σ
  /-- The signal that ends it before. -/
  stopped : Option Nat := none

/-- A shell at work. -/
structure Session where
  /-- The tree of files. -/
  files : Files
  /-- The streams. -/
  streams : Streams := .initial
  /-- The name the shell was started under. -/
  name : List Char
  /-- The arguments. -/
  arguments : List (List Char) := []
  /-- The variables. -/
  bindings : List (String × Binding) := []
  /-- What variables were before the present function made them its own; nothing outside
  functions. -/
  hidden : Option (List (String × Option Binding)) := none
  /-- The functions. -/
  functions : List (String × Command) := []
  /-- The switches that are on. -/
  switches : List Switch := []
  /-- The switches that were on before the present function made them its own. -/
  hiddenSwitches : Option (List Switch) := none
  /-- The status of the last command. -/
  status : Nat := 0
  /-- The status of the last command whose output was taken, in the present command. -/
  substituted : Nat := 0
  /-- The line of the present command. -/
  line : Nat := 0
  /-- The line behind those that were read. -/
  ahead : Nat := 1
  /-- The builtin command at work. -/
  builtin : Option (List Char) := none
  /-- Whether the output of the builtin command failed. -/
  broken : Bool := false
  /-- The current directory in the words that led there; nothing if it is not known. -/
  directory : List Char := []
  /-- How many loops the present command is in. -/
  loops : Nat := 0
  /-- How many functions the present command is in. -/
  calls : Nat := 0
  /-- The number of the process. -/
  process : Nat := 100
  /-- The number of the process that started it. -/
  parent : Nat := 1
  /-- Whether the shell has that process to itself, and is no part of another one. -/
  isMain : Bool := true
  /-- What is run when a signal comes, or at the end of the shell, which has the number zero. -/
  traps : List (Nat × List Char) := []
  /-- The signals that never come. -/
  deaf : List Nat := []
  /-- The signals that came, and were not answered yet. -/
  came : List Nat := []
  /-- The signals for other processes. -/
  sent : List (Nat × Nat) := []
  /-- The status before the present answer to a signal, and before the present end of the shell. -/
  resumed : Option Nat := none
  /-- The commands beside the shell, the latest first. -/
  jobs : List Job := []
  /-- The commands beside the shell that have not begun, the oldest first. -/
  idle : List (Start Session) := []
  /-- The number of the last process that was started beside the shell. -/
  beside : Option Nat := none
  /-- Where the options among the arguments are read on. -/
  scan : Scan := {}
  /-- The rights that new files do not get. -/
  mask : Nat := 0o022
  /-- What names at the beginning of a command stand for, the oldest first. -/
  aliases : List (List Char × List Char) := []
  /-- The programs that were found by their names, the oldest first. -/
  found : List Found := []
  /-- The texts of scripts, by their numbers. -/
  documents : List (Nat × Word) := []
  /-- The number that the next text of a script gets. -/
  nextDocument : Nat := 0
  /-- The limits that were set, by their letters. -/
  limits : List (Char × Nat) := []
  /-- Whether a command is just being shown. -/
  traces : Bool := false

/-- Why commands are left. -/
inductive Leave where
  /-- Something failed that ends all but an ordinary builtin command. -/
  | failed
  /-- The shell ends. -/
  | exited
  /-- The present function ends, with a status of its own or not. -/
  | returned (stated : Bool)
  /-- So many loops end. -/
  | broken (loops : Nat)
  /-- So many loops end, but the last of them goes on with its next round. -/
  | continued (loops : Nat)

/-- Work of a shell. -/
abbrev Work (α : Type) : Type := Act Session Leave α

namespace Session

/-- What a variable holds. -/
def binding? (s : Session) (name : String) : Option Binding := s.bindings.lookup name

/-- The value of a variable. -/
def value? (s : Session) (name : String) : Option (List Char) :=
  (s.binding? name).bind Binding.value?

/-- Sets what a variable holds, or forgets the variable. -/
def bind (s : Session) (name : String) (b : Option Binding) : Session :=
  { s with bindings := (b.map (name, ·)).toList ++ s.bindings.filter (·.1 ≠ name) }

/-- Whether a switch is on. -/
def has (s : Session) (switch : Switch) : Bool := s.switches.contains switch

/-- Turns a switch on or off. -/
def turn (s : Session) (on : Bool) (switch : Switch) : Session :=
  let others := s.switches.filter (· ≠ switch)
  { s with switches := if on then switch :: others else others }

/-- The session when a variable got another value: programs are found anew if they may be
elsewhere. -/
def heed (s : Session) (name : String) : Session :=
  if name = "PATH" then { s with found := [] } else s

/-- Gives a variable a value, whatever protects it. -/
def give (s : Session) (name : String) (value : List Char) : Session :=
  let b := (s.binding? name).getD {}
  let b := { b with value? := some value, exported := b.exported || s.has .allexport }
  (s.bind name (some b)).heed name

/-- Gives a variable a value that programs get to know. -/
def giveAll (s : Session) (name : String) (value : List Char) : Session :=
  let s := s.give name value
  s.bind name ((s.binding? name).map fun b ↦ { b with exported := true })

/-- The characters that part fields. -/
def gaps (s : Session) : List Char := (s.value? "IFS").getD [' ', '\t', '\n']

/-- Writes to a stream, if it is open for writing. -/
def write? (s : Session) (stream : Nat) (text : List Char) : Option Session := do
  let o ← s.streams.opening? stream
  let (o, disk) ← o.write? text s.files.disk
  some { s with files := { s.files with disk }, streams := s.streams.update stream o }

/-- What is still to be read from a stream, if it is open for reading. -/
def pending? (s : Session) (stream : Nat) : Option (List Char) := do
  (← s.streams.opening? stream).pending? s.files.disk

/-- The session after `n` characters were read from a stream. -/
def skip (s : Session) (stream n : Nat) : Session :=
  match s.streams.opening? stream with
  | some o => { s with streams := s.streams.update stream (o.skip n) }
  | none => s

/-- A complaint: who complains, about which line, on behalf of which command. -/
def complaint (s : Session) (text : List Char) : List Char :=
  s.name ++ ": ".toList ++ (toString s.line).toList ++ ": ".toList ++
    ((s.builtin.map (· ++ ": ".toList)).getD []) ++ text ++ ['\n']

/-- A path as the script writes it. -/
def pathOf (text : List Char) : Path := ⟨Bytes.ofChars text⟩

/-- The text of a path, one character for each byte. -/
def textOf (p : Path) : List Char := Bytes.chars p.bytes

end Session

namespace Work

/-- Writes a text to a stream; nothing happens if it cannot be written to. -/
def put (stream : Nat) (text : List Char) : Work Unit :=
  modify fun s ↦ (s.write? stream text).getD s

/-- Writes a text to the output; a builtin command remembers that it cannot be written to. -/
def print (text : List Char) : Work Unit := modify fun s ↦
  if text = [] then s else (s.write? 1 text).getD { s with broken := true }

/-- Complains and goes on. -/
def warn (text : List Char) : Work Unit := do put 2 ((← get).complaint text)

/-- Ends a command with a status. -/
def ends (status : Nat) : Work Unit := modify fun s ↦ { s with status }

/-- Complains and fails. -/
def fail {α : Type} (text : List Char) : Work α := do
  warn text
  ends 2
  throw .failed

/-- Fails because a text is no number. -/
def noNumber {α : Type} (text : List Char) : Work α := fail ("Illegal number: ".toList ++ text)

/-- The number, at least zero, that a text writes. -/
def natural (text : List Char) : Work Nat :=
  match integer? text with
  | some n => if n < 0 || 2147483647 < n then noNumber text else pure n.toNat
  | none => noNumber text

/-- Gives a variable a value, unless it is protected. -/
def assign (name : String) (value : List Char) : Work Unit := do
  let s ← get
  if ((s.binding? name).map Binding.readonly).getD false then
    fail (name.toList ++ ": is read only".toList)
  else if name = "OPTIND" then
    let next ← natural value
    set { s.give name value with scan := { next := some (if next = 0 then 1 else next) } }
  else set (s.give name value)

/-- Does work on the files; the answer tells how it ended. -/
def onFiles {α : Type} (act : Act Files Cause α) : Work (Except Cause α) :=
  Act.attempt (Act.within Session.files (fun files s ↦ { s with files }) act)

end Work

end KernelForge.Shell
