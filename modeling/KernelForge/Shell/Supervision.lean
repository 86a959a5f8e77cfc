import KernelForge.Shell.Builtin
import KernelForge.Shell.Mask
import KernelForge.Shell.Signal

/-!
# Builtin commands about processes

A shell answers signals, keeps commands that run beside it, and holds what processes may do.
-/

namespace KernelForge.Shell

/-! ## Signals -/

/-- Whether a shell answers a signal. -/
def Session.answers (s : Session) (signal : Nat) : Bool :=
  (s.traps.lookup signal).any (· ≠ []) && !s.deaf.contains signal

/-- The session when signals were sent, each to the process with a number. Those for other processes
are passed on. -/
def Session.hear (s : Session) (signals : List (Nat × Nat)) : Session :=
  let isOwn (signal : Nat × Nat) : Bool := s.isMain && signal.1 == s.process
  { s with
    came := s.came ++ ((signals.filter isOwn).map (·.2)).filter s.answers
    sent := s.sent ++ signals.filter (!isOwn ·) }

/-- Shows what is run when signals come. -/
def showTraps : Work Unit := do
  let s ← get
  (List.range Signal.count).forM fun n ↦
    match s.traps.lookup n with
    | some text =>
      Work.print ("trap -- ".toList ++ quoteValue text ++ ' ' :: Signal.nameOf n ++ ['\n'])
    | none => pure ()

/-- Keeps commands for signals and for the end of the shell, or forgets them. -/
def trapCommand : Builtin := fun arguments ↦ do
  let (_, operands) ← optionsOf "" "" arguments
  match operands with
  | [] => do
    showTraps
    pure 0
  | first :: rest =>
    let forgets := rest = [] || (Signal.ofDigits? first).isSome
    let action := if forgets || first = ['-'] then none else some first
    keep action (if forgets then operands else rest)
where
  /-- Keeps an action for signals. -/
  keep (action : Option (List Char)) : List (List Char) → Work Nat
    | [] => pure 0
    | name :: rest => do
      match Signal.ofText? true name with
      | some n => do
        modify fun s ↦
          { s with traps := (action.map (n, ·)).toList ++ s.traps.filter (·.1 ≠ n) }
        keep action rest
      | none => do
        Work.put 2 ("trap: ".toList ++ name ++ ": bad trap\n".toList)
        pure 1

/-- Fails because of how signals are to be sent. -/
def misuseKill {α : Type} : Work α :=
  Work.fail ("Usage: kill [-s sigspec | -signum | -sigspec] [pid | job]... or\n".toList ++
    "kill -l [exitstatus]".toList)

/-- What the options before the operands ask for: whether for names, and for which signal. -/
def killOptions : (most : Nat) → List (List Char) → (names : Bool) → Option Nat →
    Work (Bool × Option Nat × List (List Char))
  | 0, operands, names, signal => pure (names, signal, operands)
  | most + 1, operands, names, signal => do
    match operands with
    | ['-', '-'] :: rest => pure (names, signal, rest)
    | ('-' :: c :: more) :: rest => letters most (c :: more) rest names signal
    | operands => pure (names, signal, operands)
where
  /-- Reads the letters of an argument. -/
  letters (most : Nat) : List Char → List (List Char) → (names : Bool) → Option Nat →
      Work (Bool × Option Nat × List (List Char))
    | [], rest, names, signal => killOptions most rest names signal
    | 'l' :: more, rest, _, signal => letters most more rest true signal
    | 's' :: c :: more, rest, names, _ => do
      killOptions most rest names (some (← signalNamed (c :: more)))
    | ['s'], name :: rest, names, _ => do
      killOptions most rest names (some (← signalNamed name))
    | ['s'], [], _, _ => Work.fail "No arg for -s option".toList
    | c :: _, _, _, _ => Work.fail ("Illegal option -".toList ++ [c])
  /-- The signal with a name. -/
  signalNamed (name : List Char) : Work Nat :=
    match Signal.ofText? false name with
    | some n => pure n
    | none => Work.fail ("invalid signal number or name: ".toList ++ name)

/-- Fails because there is no job with a name. -/
def failAbsent {α : Type} (name : List Char) : Job.Absence → Work α
  | .noCurrent => Work.fail "No current job".toList
  | .noPrevious => Work.fail "No previous job".toList
  | .unknown => Work.fail ("No such job: ".toList ++ name)

/-- The job with a name. -/
def jobNamed (name : List Char) : Work Job := do
  match Job.named (← get).jobs name with
  | .ok job => pure job
  | .error absence => failAbsent name absence

/-- Whether a process that begins with a session is ended by a signal. -/
def Session.fallsTo (s : Session) (signal : Nat) : Bool :=
  Signal.isDeadly signal && !s.deaf.contains signal && (s.traps.lookup signal).isNone

/-- The session when the job with a process is as far as `progress`. -/
def Session.advance (s : Session) (process : Nat) (progress : Progress) : Session :=
  let jobs := s.jobs.map fun job ↦ if job.process = process then { job with progress } else job
  { s with jobs }

/-- The session when a signal was sent to a process beside the shell, which is ended by it unless it
passes it over. -/
def Session.stop (s : Session) (process signal : Nat) : Session :=
  let idle := s.idle.map fun start ↦
    if start.process = process && start.stopped.isNone && start.session.fallsTo signal then
      { start with stopped := some signal }
    else start
  { s with idle }

/-- Sends a signal to a process: whether it was there. A job is no group of processes, which its
name would stand for. -/
def sendSignal (signal : Nat) (target : List Char) : Work Bool := do
  let process? ← match target with
    | '%' :: _ => do
      let _ ← jobNamed target
      pure none
    | '-' :: digits => some <$> Work.natural digits
    | digits => some <$> Work.natural digits
  let s ← get
  match process? with
  | none => unknown
  | some process =>
    if s.idle.any (·.process = process) then
      set (s.stop process signal)
      pure true
    else if process = s.process || process = s.parent then
      if signal ≠ 0 then
        set (s.hear [(process, signal)])
        if s.isMain && process = s.process && s.fallsTo signal then
          set { s with status := 128 + signal, traps := [] }
          throw .exited
      pure true
    else unknown
where
  /-- There is no such process. -/
  unknown : Work Bool := do
    Work.warn "No such process\n".toList
    pure false

/-- Sends a signal to processes, or tells the names of signals. -/
def killCommand : Builtin := fun arguments ↦ do
  let quick? := match arguments with
    | ('-' :: name) :: _ => Signal.ofText? false name
    | _ => none
  let (names, signal, operands) ← match arguments, quick? with
    | [], _ => misuseKill
    | _ :: rest, some n => pure (false, some n, rest)
    | arguments, none =>
      if arguments.head?.bind List.head? = some '-' then
        killOptions (arguments.length + 1) arguments false none
      else pure (false, none, arguments)
  if names then
    match operands, signal with
    | _, some _ => misuseKill
    | [], none => do
      Work.print "0\n".toList
      Signal.names.tail.forM fun name ↦ Work.print (name.toList ++ ['\n'])
      pure 0
    | text :: _, none => do
      let status ← Work.natural text
      let n := if 128 < status then status - 128 else status
      if n = 0 || Signal.count ≤ n then
        Work.fail ("invalid signal number or exit status: ".toList ++ text)
      Work.print (Signal.nameOf n ++ ['\n'])
      pure 0
  else if operands = [] then misuseKill
  else
    let sent ← operands.mapM (sendSignal (signal.getD Signal.usual))
    pure (if sent.all id then 0 else 1)

/-! ## Jobs -/

/-- Shows a job, and forgets it if it has ended. The latest one and the one before it are marked. -/
def showJob (job : Job) : Work Unit := do
  let s ← get
  let mark := match s.jobs.findIdx (·.number = job.number) with
    | 0 => '+'
    | 1 => '-'
    | _ => ' '
  Work.print (job.describe mark)
  if job.progress ≠ .running then
    modify fun s ↦ { s with jobs := s.jobs.filter (·.number ≠ job.number) }

/-- Shows jobs, or the numbers of their processes. -/
def jobsCommand : Builtin := fun arguments ↦ do
  let (letters, operands) ← optionsOf "lp" "" arguments
  let jobs ← if operands = [] then pure (← get).jobs else operands.mapM jobNamed
  jobs.forM fun job ↦
    if letters.getLast? = some 'p' then Work.print ((toString job.process).toList ++ ['\n'])
    else showJob job
  pure 0

/-- Waits for commands, which all have ended, some of them only `now`: the status of the last
one. -/
def waitCommand (now : List Nat) : Builtin := fun arguments ↦ do
  let (_, operands) ← optionsOf "" "" arguments
  if operands = [] then
    modify fun s ↦ { s with jobs := s.jobs.map fun job ↦ { job with awaited := true } }
    pure 0
  else
    let statuses ← operands.mapM fun operand ↦ do
      let job? ← if operand.head? = some '%' then some <$> jobNamed operand
        else
          let process ← Work.natural operand
          pure ((← get).jobs.find? (·.process = process))
      match job? with
      | none => pure none
      | some job => do
        tellEnd job
        modify fun s ↦ { s with jobs := s.jobs.map fun other ↦
          if other.number = job.number then { other with awaited := true } else other }
        pure (some job.progress.status)
    pure (((statuses.filterMap id).getLast?).getD 127)
where
  /-- Tells that a signal ended a job, if that is worth it and was not so before. -/
  tellEnd (job : Job) : Work Unit :=
    match job.progress with
    | .killed signal => do
      if now.contains job.process && !job.awaited && !Signal.isQuiet signal then
        Work.put 2 (Signal.describe signal ++ "\n").toList
    | _ => pure ()

/-- Goes on with a job, which is never possible without a terminal. -/
def resumeCommand : Builtin := fun arguments ↦ do
  let (_, operands) ← optionsOf "" "" arguments
  let s ← get
  match operands, s.jobs with
  | [], [] => Work.fail "No current job".toList
  | [], _ :: _ => notControlled "(null)".toList
  | name :: _, _ => do
    let _ ← jobNamed name
    notControlled name
where
  /-- The job is not controlled. -/
  notControlled (name : List Char) : Work Nat :=
    Work.fail ("job ".toList ++ name ++ " not created under job control".toList)

/-- Shows how long the shell and its processes worked, which is too short to be seen. -/
def timesCommand : Builtin := fun _ ↦ do
  Work.print "0m0.000000s 0m0.000000s\n0m0.000000s 0m0.000000s\n".toList
  pure 0

/-! ## Masks and limits -/

/-- Sets the rights that new files do not get, or shows them. -/
def umaskCommand : Builtin := fun arguments ↦ do
  let (letters, operands) ← optionsOf "S" "" arguments
  let s ← get
  match operands with
  | [] => do
    Work.print ((if letters = [] then Mask.digits s.mask else Mask.rights s.mask) ++ ['\n'])
    pure 0
  | text :: _ =>
    let isNumber := text.head?.any Char.isDigit
    match if isNumber then Mask.ofDigits? text else Mask.assign? s.mask text with
    | some mask => do
      set { s with mask }
      pure 0
    | none =>
      if isNumber then Work.noNumber text else Work.fail ("Illegal mode: ".toList ++ text)

/-- Sets a limit, or shows it. What was not limited is unlimited. -/
def ulimitCommand : Builtin := fun arguments ↦ do
  let (letters, operands) ← optionsOf "HSatfdscmlpnvwr" "" arguments
  let which := ((letters.filter fun c ↦ !"HSa".toList.contains c).getLast?).getD 'f'
  let s ← get
  match operands with
  | [] => do
    let limit := ((s.limits.lookup which).map fun n ↦ toString n).getD "unlimited"
    Work.print (limit.toList ++ ['\n'])
    pure 0
  | [text] =>
    let others := s.limits.filter (·.1 ≠ which)
    if letters.contains 'a' then Work.fail "too many arguments".toList
    else if text = "unlimited".toList then do
      set { s with limits := others }
      pure 0
    else if text.all Char.isDigit then do
      set { s with limits := (which, decimalValue text) :: others }
      pure 0
    else Work.fail "bad number".toList
  | _ => Work.fail "too many arguments".toList

/-- The builtin commands about processes. -/
def supervisions : List (String × Builtin) :=
  [("trap", trapCommand), ("kill", killCommand), ("jobs", jobsCommand), ("fg", resumeCommand),
    ("bg", resumeCommand), ("times", timesCommand), ("umask", umaskCommand),
    ("ulimit", ulimitCommand)]

end KernelForge.Shell
