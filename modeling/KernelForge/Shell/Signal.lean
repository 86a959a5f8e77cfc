/-!
# Signals

A signal has a number and a name.
-/

namespace KernelForge.Shell.Signal

/-- The names of signals in order; the first one stands for the end of a shell. -/
def names : List String :=
  ["EXIT", "HUP", "INT", "QUIT", "ILL", "TRAP", "ABRT", "BUS", "FPE", "KILL", "USR1", "SEGV",
    "USR2", "PIPE", "ALRM", "TERM", "16", "CHLD", "CONT", "STOP", "TSTP", "TTIN", "TTOU", "URG",
    "XCPU", "XFSZ", "VTALRM", "PROF", "WINCH", "IO", "PWR", "SYS", "32", "33", "RTMIN"] ++
  (List.range 15).map (fun i ↦ "RTMIN+" ++ toString (i + 1)) ++
  (List.range 14).map (fun i ↦ "RTMAX-" ++ toString (14 - i)) ++ ["RTMAX"]

/-- How many numbers there are. -/
def count : Nat := 65

/-- The name of a signal. -/
def nameOf (number : Nat) : List Char := ((names[number]?).getD "").toList

/-- What is told of a process that a signal ended. -/
def describe (number : Nat) : String :=
  let known : List (Nat × String) :=
    [(1, "Hangup"), (2, "Interrupt"), (3, "Quit"), (4, "Illegal instruction"),
      (5, "Trace/breakpoint trap"), (6, "Aborted"), (7, "Bus error"),
      (8, "Floating point exception"), (9, "Killed"), (10, "User defined signal 1"),
      (11, "Segmentation fault"), (12, "User defined signal 2"), (13, "Broken pipe"),
      (14, "Alarm clock"), (15, "Terminated"), (16, "Stack fault"), (24, "CPU time limit exceeded"),
      (25, "File size limit exceeded"), (26, "Virtual timer expired"),
      (27, "Profiling timer expired"), (29, "I/O possible"), (30, "Power failure"),
      (31, "Bad system call")]
  match known.lookup number with
  | some text => text
  | none =>
    if number < 34 then "Unknown signal " ++ toString number
    else "Real-time signal " ++ toString (number - 34)

/-- Whether it is not worth telling that a signal ended a process. -/
def isQuiet (number : Nat) : Bool := number = 2 || number = 13

/-- The number that a text of digits writes. -/
def ofDigits? (text : List Char) : Option Nat :=
  if text = [] || !text.all Char.isDigit then none
  else
    let number := text.foldl (fun n c ↦ n * 10 + (c.toNat - 48)) 0
    if number < count then some number else none

/-- The signal that a text names, by its number or in letters of any case. The end of a shell counts
only if that is asked for. -/
def ofText? (ending : Bool) (text : List Char) : Option Nat :=
  if text ≠ [] && text.all Char.isDigit then ofDigits? text
  else
    let name := String.ofList (text.map Char.toUpper)
    let found := names.findIdx (· == name)
    if found < count && (ending || found ≠ 0) then some found else none

/-- The end of a shell. -/
def farewell : Nat := 0

/-- A process that was started has ended. -/
def childEnded : Nat := 17

/-- What comes if no signal is named. -/
def usual : Nat := 15

/-- Whether a signal that nobody answers ends a process. -/
def isDeadly (number : Nat) : Bool := number ≠ 0 && !([17, 18, 23, 28].contains number)

end KernelForge.Shell.Signal
