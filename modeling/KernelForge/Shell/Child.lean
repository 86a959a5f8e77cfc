import KernelForge.Shell.Directories
import KernelForge.Shell.Inquiry
import KernelForge.Shell.Lookup
import KernelForge.Shell.Reader
import KernelForge.Shell.Redirection
import KernelForge.Shell.Removal
import KernelForge.Shell.Writing

/-!
# Shells and programs as processes

A process that a shell starts has a session of its own; what it does to files and to shared streams
remains. A command of a shell is run by `run`, which is given, since commands start shells.
-/

namespace KernelForge.Shell

/-- Runs a command; `tested` tells that its failure is looked at. -/
abbrev Runner : Type := (tested : Bool) → Command → Work Unit

/-- Runs `act` in a process of its own, whose session is made from that of the shell: its status. -/
def inChild (start : Session → Session) (act : Work Unit) : Work Nat := Act.ofRun fun s ↦
  let child := (act.runFrom (start s)).2
  let s := s.hear child.sent
  (.ok (child.status % 256),
    { s with
      files := { s.files with disk := child.files.disk }
      streams := { s.streams with openings := child.streams.openings }
      came := s.came ++ [Signal.childEnded].filter s.answers })

/-- The session of a command that was put off in session `before`. -/
def Session.resumeFrom (before s : Session) : Session :=
  { before with
    files := { before.files with disk := s.files.disk }
    streams := { before.streams with openings := s.streams.openings } }

/-- Runs the commands beside the shell that have not begun, each as a shell of its own. They begin
when the shell waits. -/
def runIdle (run : Runner) : Work Unit := do
  let starts := (← get).idle
  modify fun s ↦ { s with idle := [] }
  starts.forM fun start ↦ do
    let begins := start.stopped.isNone
    let status ← inChild start.session.resumeFrom
      (if begins then run false (.subshell start.session.line start.command []) else pure ())
    modify (·.advance start.process ((start.stopped.map .killed).getD (.ended status)))

/-- Runs `act` in a process of its own, for which the shell waits. -/
def awaitChild (start : Session → Session) (act : Work Unit) : Work Nat := do
  modify fun s ↦ { s with jobs := (Job.makePlace s.jobs).1 }
  inChild start act

/-! ## Scripts -/

/-- What is done while a script is read. -/
structure Audience where
  /-- What is done when lines were read. -/
  lines : List (List Char) → Work Unit := fun _ ↦ pure ()
  /-- What is done at the end. -/
  finish : Work Unit := pure ()

/-- A text cut behind each end of a line; the last piece may be empty. -/
def linePieces : List Char → List (List Char)
  | [] => [[]]
  | c :: rest =>
    if c = '\n' then ['\n'] :: linePieces rest
    else
      match linePieces rest with
      | [] => [[c]]
      | piece :: more => (c :: piece) :: more

/-- Runs the lines of a script one after the other, at most so many. Each is read when those before
it were run. -/
def runLines (run : Runner) (audience : Audience) (tested : Bool) (steps : Nat) :
    (most : Nat) → Source → Work Unit
  | 0, _ => pure ()
  | most + 1, source => do
    let s ← get
    let source := { source with aliases := s.aliases, nextDocument := s.nextDocument }
    match (readLine steps).run source with
    | .error fault =>
      audience.lines ((linePieces source.rest).take (fault.line - source.line + 1))
      modify fun s ↦ { s with line := fault.line }
      Work.fail ("Syntax error: ".toList ++ fault.text.toList)
    | .ok (line, after) =>
      let pieces := linePieces (source.rest.take (source.rest.length - after.rest.length))
      match line with
      | .finish =>
        audience.lines pieces
        audience.finish
      | .blank =>
        audience.lines pieces.dropLast
        runLines run audience tested steps most after
      | .commands command =>
        audience.lines (if pieces.getLast? = some [] then pieces.dropLast else pieces)
        modify fun s ↦ { s with
          ahead := after.line
          documents := after.documents ++ s.documents
          nextDocument := after.nextDocument }
        run tested command
        runLines run audience tested steps most { after with documents := [] }

/-- Runs the commands of a text up to a fault in it. -/
def runText (run : Runner) (tested : Bool) (text : List Char) (audience : Audience := {}) :
    Work Unit := do
  let before := (← get).ahead
  let source := scriptSource text
  runLines run audience tested (readerSteps text) (source.rest.length + 2) source
  modify fun s ↦ { s with ahead := before }

/-! ## Shells -/

/-- Runs `act` as all that a shell does, and then what was kept for its end. That changes the status
only by ending the shell once more, or by a failure. -/
def untilEnd (run : Runner) (act : Work Unit) : Work Unit := do
  let _ : Except Leave Unit ← Act.attempt act
  let s ← get
  match s.traps.lookup Signal.farewell with
  | none => pure ()
  | some text =>
    set { s with
      traps := s.traps.filter (·.1 ≠ Signal.farewell), loops := 0, resumed := some s.status }
    let ended : Except Leave Unit ← Act.attempt (runText run false text)
    match ended with
    | .error .exited | .error .failed => pure ()
    | _ => Work.ends s.status

/-- Runs `act` as all that a shell does. The commands beside it outlive it. -/
def asShell (run : Runner) (act : Work Unit) : Work Unit := do
  untilEnd run act
  runIdle run

/-- The session of a shell that is a part of another one. What was kept for signals is forgotten,
but not which of them are passed over. -/
def Session.part (s : Session) : Session :=
  { s with
    isMain := false
    traps := s.traps.filter (·.2 = [])
    came := []
    sent := []
    jobs := []
    idle := [] }

/-- Runs `act` in a shell that begins like the present one. -/
def inSubshell (run : Runner) (start : Session → Session) (act : Work Unit) : Work Nat :=
  awaitChild (fun s ↦ start s.part) (asShell run act)

/-- The output of a command in a shell of its own. -/
def captureOutput (run : Runner) : Capture := fun command ↦ do
  runIdle run
  let position := (← get).streams.openings.length
  let attach (s : Session) : Session := { s with streams := s.streams.attach 1 (.record []) }
  let status ← inSubshell run attach (run false command)
  modify fun s ↦ { s with substituted := status }
  return (← get).streams.recorded position

/-! ## Lines that are shown -/

/-- The value of a variable as a text in which parameters, the output of commands and arithmetic are
replaced. -/
def expandPrompt (run : Runner) (name : String) : Work (List Char) := do
  let text := ((← get).value? name).getD []
  match readPrompt text with
  | .error fault =>
    let line := (← get).line
    modify fun s ↦ { s with line := fault.line }
    Work.warn ("Syntax error: ".toList ++ fault.text.toList)
    modify fun s ↦ { s with line }
    pure text
  | .ok w =>
    let expand := expandText (captureOutput run) { verbatim := true } w
    let done : Except Leave (List Char) ← Act.attempt expand
    match done with
    | .ok expanded => pure expanded
    | .error .failed => pure text
    | .error leave => throw leave

/-- How often the end of a script is passed over. -/
def endLimit : Nat := 50

/-- What is done while the script of a shell is read, or one that it takes in on its way. The shell
asks for each line and shows it, if that is wanted; and it may insist on being left in another way
than by the end of the script, but not for ever. -/
def scriptAudience (run : Runner) (whole : Bool) : Audience where
  lines lines := lines.zipIdx.forM fun (line, i) ↦ do
    let s ← get
    if whole && s.has .interactive then
      Work.put 2 (← expandPrompt run (if i = 0 then "PS1" else "PS2"))
    if s.has .verbose then Work.put 2 line
  finish := do
    let s ← get
    let ask : Work Unit := do
      if s.has .interactive then Work.put 2 (← expandPrompt run "PS1")
    if whole && s.has .ignoreeof then
      (List.range endLimit).forM fun _ ↦ do
        Work.put 2 "\nUse \"exit\" to leave shell.\n".toList
        ask
    else if whole && s.has .interactive then Work.put 2 ['\n']

/-- Runs the script of a shell. After a failure a shell that asks for lines goes on with its input,
where there are none. -/
def runScript (run : Runner) (text : List Char) : Work Unit := do
  let audience := scriptAudience run true
  let done : Except Leave Unit ← Act.attempt (runText run false text audience)
  match done with
  | .ok () => pure ()
  | .error leave =>
    match leave, (← get).has .interactive with
    | .failed, true => do
      let status := (← get).status
      audience.lines [[]]
      audience.finish
      Work.ends status
    | leave, _ => throw leave

/-! ## Programs -/

/-- The variables that a shell begins with. -/
def usualVariables : List (String × List Char) :=
  [("IFS", [' ', '\t', '\n']), ("OPTIND", ['1']), ("PS1", ['#', ' ']), ("PS2", ['>', ' ']),
    ("PS4", ['+', ' '])]

/-- The home directory. -/
def homeDirectory : Path := .ofString "/root"

/-- The variables that programs know at the beginning. -/
def usualEnvironment : List (String × List Char) :=
  [("HOME", Session.textOf homeDirectory),
    ("PATH", "/usr/local/sbin:/usr/local/bin:/usr/sbin:/usr/bin:/sbin:/bin".toList)]

/-- The variables that begin with their usual values in any case. -/
def ownVariables : List String := ["IFS", "OPTIND"]

/-- The session of a program with an environment. -/
def Session.fresh (files : Files) (streams : Streams) (environment : List (String × List Char)) :
    Session :=
  let given := environment.filter fun (name, _) ↦ !ownVariables.contains name
  let exported (name : String) : Bool := environment.any (·.1 = name)
  { files
    streams
    name := "sh".toList
    bindings :=
      given.map (fun (name, value) ↦ (name, { value? := some value, exported := true })) ++
        (usualVariables.filter fun (name, _) ↦ !given.any (·.1 = name)).map fun (name, value) ↦
          (name, { value? := some value, exported := exported name }) }

/-- The variables that programs get to know. -/
def Session.environment (s : Session) : List (String × List Char) :=
  s.bindings.filterMap fun (name, b) ↦ if b.exported then b.value?.map (name, ·) else none

/-- How far apart the numbers of processes of shells are. -/
def processGap : Nat := 100

/-- The session of a program that a shell starts. -/
def Session.program (s : Session) : Session :=
  let passedOver := s.traps.filter fun (signal, text) ↦ signal ≠ Signal.farewell && text = []
  { Session.fresh s.files s.streams s.environment with
    process := s.process + processGap
    parent := if s.isMain then s.process else 0
    deaf := s.deaf ++ passedOver.map (·.1)
    mask := s.mask
    limits := s.limits }

/-- Turns switches as the options among the arguments of a shell say: the operands, and whether the
first of them is a script itself. -/
def shellOptions : (most : Nat) → List (List Char) → Work (List (List Char) × Bool)
  | most + 1, (sign :: letters) :: rest =>
    if sign = '-' && (letters = [] || letters = ['-']) then pure (rest, false)
    else if sign = '-' || sign = '+' then do
      let settings := letters.filter fun c ↦ c ≠ 'c' && c ≠ 'l'
      let (operands, direct) ← shellOptions most (← turnLetters (sign = '-') settings rest)
      pure (operands, direct || letters.contains 'c')
    else pure ((sign :: letters) :: rest, false)
  | _, operands => pure (operands, false)

/-- Finds out where the shell is: in the directory that its environment names, if that is so. -/
def enterDirectory : Work Unit := do
  let s ← get
  let known? := (s.value? "PWD").filter fun text ↦
    text.head? = some '/' &&
      (match s.files.node (Session.pathOf text), s.files.node ⟨Path.dot⟩ with
        | .ok there, .ok here => there = here
        | _, _ => false)
  let directory? ← match known?, s.files.current with
    | some known, _ => pure (some known)
    | none, .ok p => pure (some (Session.textOf p))
    | none, .error cause => do
      Work.warn ("getcwd() failed: ".toList ++ cause.describe.1.toList)
      pure none
  modify (·.give "PPID" (toString s.parent).toList)
  directory?.forM fun directory ↦
    modify fun s ↦ { s.giveAll "PWD" directory with directory }

/-- What a shell does with its words: it runs the script that is one of them, or in the file that
one names, or in its input. -/
def interpret (run : Runner) (words : List (List Char)) : Work Unit := do
  enterDirectory
  modify fun s ↦ { s with name := words.headD s.name }
  let (operands, direct) ← shellOptions words.length words.tail
  let s ← get
  let isInput := !direct && (operands = [] || s.has .stdin)
  if direct then
    match operands with
    | [] => Work.fail "-c requires an argument".toList
    | text :: rest => do
      set { s with name := rest.headD s.name, arguments := rest.tail }
      begin
      runText run false text
  else if isInput then
    let text := (s.pending? 0).getD []
    set { s.skip 0 text.length with arguments := operands }
    begin
    runScript run text
  else
    let path := operands.headD []
    match s.files.node (Session.pathOf path) with
    | .error cause => failOpening false path cause
    | .ok _ =>
      let text := ((s.files.read (Session.pathOf path)).toOption.getD [])
      set { s with name := path, arguments := operands.tail }
      begin
      runScript run (Bytes.chars text)
where
  /-- Begins to work. A shell that asks for lines would also control jobs. -/
  begin : Work Unit := do
    if (← get).has .interactive then modify (·.turn true .monitor)
    giveUpControl

/-- What a program does with its words. -/
def runProgram (run : Runner) (program : Program) (words : List (List Char)) : Work Unit :=
  let name := words.headD []
  match program with
  | .shell => asShell run (interpret run words)
  | .remove => removalProgram name words.tail
  | .makeDirectory => directoryProgram name words.tail
  | .echo => echoProgram name words.tail
  | .format => formatProgram name words.tail
  | .place => placeProgram name words.tail
  | .succeed => Work.ends 0
  | .fail => Work.ends 1
  | .inquire => inquiryProgram false name words.tail
  | .bracket => inquiryProgram true name words.tail

/-- Whether a content is no script: its first line, as far as that is looked at, holds a control
character other than the usual ones. -/
def isBinary (content : Bytes) : Bool :=
  ((content.take 128).takeWhile (· ≠ 0x0A)).any fun b ↦
    (b < 0x20 && !(0x09 ≤ b && b ≤ 0x0F) && b ≠ 0x1B) || b = 0x7F

/-- Runs the program at the first of some paths where one can be started, in a process of its own:
its status, or why there is none. A text that names no interpreter is run by the shell. -/
def startFirst (run : Runner) (words : List (List Char)) :
    (cause : Cause) → List (List Char) → Work (Except Cause Nat)
  | cause, [] => pure (.error cause)
  | cause, path :: more => do
    let s ← get
    let p := Session.pathOf path
    let isText := (s.files.read p).toOption.any (!isBinary ·)
    match findProgram s.files p (words.map Bytes.ofChars) interpreterLevels, isText with
    | .ok (program, words), _ =>
      .ok <$> awaitChild Session.program (runProgram run program (words.map Bytes.chars))
    | .error .notRunnable, true =>
      .ok <$> awaitChild Session.program
        (runProgram run .shell ("/bin/sh".toList :: path :: words.tail))
    | .error other, _ =>
      let isAbsence := match other with
        | .missing | .notDirectory => true
        | _ => false
      startFirst run words (if isAbsence then cause else other) more

/-- Runs the program with a name in a process of its own: its status. -/
def runExternal (run : Runner) (usual : Bool) (words : List (List Char)) : Work Nat := do
  let name := words.headD []
  match ← findProgramFile usual name with
  | .error cause => do
    complain name cause
    pure 127
  | .ok paths =>
    runIdle run
    match ← startFirst run words .missing paths with
    | .ok status => pure status
    | .error cause => do
      complain name cause
      pure (failedStart cause)
where
  /-- Complains of a program that cannot be started. -/
  complain (name : List Char) (cause : Cause) : Work Unit :=
    Work.warn (name ++ ": ".toList ++ startFault cause)

end KernelForge.Shell
