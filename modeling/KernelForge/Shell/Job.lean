import KernelForge.Shell.Signal

/-!
# Jobs

A job is a command that runs beside the shell. When it has ended it is kept until it is told of, or
until another job takes its place.
-/

namespace KernelForge.Shell

/-- How far a command beside the shell is. -/
inductive Progress where
  /-- It has not ended. -/
  | running
  /-- It ended with a status. -/
  | ended (status : Nat)
  /-- A signal ended it. -/
  | killed (signal : Nat)
  deriving DecidableEq

namespace Progress

/-- The status of a command; the one of success if it has not ended. -/
def status : Progress → Nat
  | running => 0
  | ended status => status
  | killed signal => 128 + signal

/-- What is told of a command in a list. -/
def describe : Progress → String
  | running => "Running"
  | ended 0 => "Done"
  | ended status => "Done(" ++ toString status ++ ")"
  | killed signal => Signal.describe signal

end Progress

/-- A command that runs beside the shell. -/
structure Job where
  /-- Its number. -/
  number : Nat
  /-- The number of its last process. -/
  process : Nat
  /-- How many commands it joins. -/
  parts : Nat
  /-- How far it is. -/
  progress : Progress := .running
  /-- Whether somebody waited for it. -/
  awaited : Bool := false

namespace Job

/-- The least number that no job has, from `n` on. -/
def freeNumber (jobs : List Job) : (most : Nat) → (n : Nat) → Nat
  | 0, n => n
  | most + 1, n => if jobs.any (·.number = n) then freeNumber jobs most (n + 1) else n

/-- The jobs without the one that a new command takes the place of, and the number of that place. It
is the first one that is free, or whose job was waited for. -/
def makePlace (jobs : List Job) : List Job × Nat :=
  let kept := jobs.filter (!·.awaited)
  let number := freeNumber kept jobs.length 1
  (jobs.filter (·.number ≠ number), number)

/-- What a job looks like in a list; `mark` stands before it. -/
def describe (job : Job) (mark : Char) : List Char :=
  let line :=
    ("[" ++ toString job.number ++ "] ").toList ++ mark :: ' ' :: job.progress.describe.toList
  line ++ List.replicate (33 - line.length) ' ' ++
    (List.replicate (job.parts - 1) " | ".toList).flatten ++ ['\n']

/-- Why there is no job with a name. -/
inductive Absence where
  /-- No job at all. -/
  | noCurrent
  /-- Only one job. -/
  | noPrevious
  /-- No job with the name. -/
  | unknown

/-- The job with a name: a percent sign, and a number or a sign for the latest one or the one
before. -/
def named (jobs : List Job) (name : List Char) : Except Absence Job :=
  match name with
  | ['%'] | ['%', '%'] | ['%', '+'] => orElse .noCurrent jobs.head?
  | ['%', '-'] => orElse .noPrevious jobs[1]?
  | '%' :: digits =>
    if digits.all Char.isDigit then
      let digits := digits.dropWhile (· = '0')
      orElse .unknown (jobs.find? fun job ↦ (toString job.number).toList = digits)
    else .error .unknown
  | _ => .error .unknown
where
  /-- A job, or why there is none. -/
  orElse (absence : Absence) : Option Job → Except Absence Job
    | some job => .ok job
    | none => .error absence

end Job

end KernelForge.Shell
