/-!
# Switches

A shell has switches that change how it works. Each has a name, and most have a letter.
-/

namespace KernelForge.Shell

/-- A switch of the shell. -/
inductive Switch where
  /-- A command that fails ends the shell. -/
  | errexit
  /-- Patterns stand for themselves. -/
  | noglob
  /-- The end of the script is passed over a few times. -/
  | ignoreeof
  /-- The shell asks for each line. -/
  | interactive
  /-- Jobs are controlled from a terminal. -/
  | monitor
  /-- Commands are read but not run. -/
  | noexec
  /-- The script is the input. -/
  | stdin
  /-- Commands are shown before they are run. -/
  | xtrace
  /-- Lines are shown when they are read. -/
  | verbose
  /-- Lines are edited in one way. -/
  | vi
  /-- Lines are edited in another way. -/
  | emacs
  /-- A redirection writes to no file that is there. -/
  | noclobber
  /-- Programs get to know all variables. -/
  | allexport
  /-- The end of a job is told at once. -/
  | notify
  /-- A parameter without a value is a failure. -/
  | nounset
  /-- The shell keeps the rights it was started with. -/
  | privileged
  /-- Functions are not remembered among commands. -/
  | nolog
  /-- The shell tells what it does. -/
  | debug
  deriving DecidableEq

namespace Switch

/-- All switches. -/
def all : List Switch :=
  [errexit, noglob, ignoreeof, interactive, monitor, noexec, stdin, xtrace, verbose, vi, emacs,
    noclobber, allexport, notify, nounset, privileged, nolog, debug]

/-- The name of a switch. -/
def name : Switch → String
  | errexit => "errexit"
  | noglob => "noglob"
  | ignoreeof => "ignoreeof"
  | interactive => "interactive"
  | monitor => "monitor"
  | noexec => "noexec"
  | stdin => "stdin"
  | xtrace => "xtrace"
  | verbose => "verbose"
  | vi => "vi"
  | emacs => "emacs"
  | noclobber => "noclobber"
  | allexport => "allexport"
  | notify => "notify"
  | nounset => "nounset"
  | privileged => "privileged"
  | nolog => "nolog"
  | debug => "debug"

/-- The letter of a switch. -/
def letter? : Switch → Option Char
  | errexit => some 'e'
  | noglob => some 'f'
  | ignoreeof => some 'I'
  | interactive => some 'i'
  | monitor => some 'm'
  | noexec => some 'n'
  | stdin => some 's'
  | xtrace => some 'x'
  | verbose => some 'v'
  | vi => some 'V'
  | emacs => some 'E'
  | noclobber => some 'C'
  | allexport => some 'a'
  | notify => some 'b'
  | nounset => some 'u'
  | privileged => some 'p'
  | nolog | debug => none

/-- The switch with a name. -/
def named? (name : String) : Option Switch := all.find? (·.name == name)

/-- The switch with a letter. -/
def lettered? (c : Char) : Option Switch := all.find? (·.letter? == some c)

/-- A switch that excludes another one: one way of editing or the other. -/
def rival? : Switch → Option Switch
  | vi => some emacs
  | emacs => some vi
  | _ => none

end Switch

end KernelForge.Shell
