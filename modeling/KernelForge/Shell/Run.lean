import KernelForge.Shell.Child

/-!
# Running commands

A command is run by the rules of its form; commands inside it are run by `run`, which is given, so
that the depth of a script bounds the work. The status of a command whose failure nobody looks at
ends the shell if that is asked for.
-/

namespace KernelForge.Shell

section

variable (run : Runner)

/-- Ends the shell after a failure that nobody looks at, if that is asked for. -/
def checkFailure (tested : Bool) : Work Unit := do
  let s ← get
  if s.has .errexit && !tested && s.status ≠ 0 then throw .exited

/-- Runs what is kept for a signal that came. Its status does not count, unless it leaves a function
with one. -/
def answerSignal (signal : Nat) : Work Unit := do
  let s ← get
  if s.came.contains signal then
    let s := { s with came := s.came.filter (· ≠ signal) }
    set s
    match s.traps.lookup signal with
    | none => pure ()
    | some text =>
      let status := s.resumed.getD s.status
      set { s with resumed := some status }
      let done : Except Leave Unit ← Act.attempt (runText run false text)
      modify fun s' ↦ { s' with resumed := s.resumed }
      match done with
      | .ok () => Work.ends status
      | .error leave =>
        match leave with
        | .returned false | .broken _ | .continued _ => Work.ends status
        | _ => pure ()
        throw leave

/-- Answers the signals that came, in the order of their numbers. -/
def answerSignals : Work Unit := do
  if (← get).came ≠ [] then (List.range Signal.count).forM (answerSignal run)

/-! ## Builtin commands that run commands -/

/-- Runs its arguments as a script. -/
def evalCommand (tested : Bool) : Builtin := fun arguments ↦ do
  let text := [' '].intercalate arguments
  if text.all isSpace then pure 0
  else
    runText run tested text
    return (← get).status

/-- The file that a script is taken in from: a path with a slash, or a file in one of the
directories that are searched. -/
def scriptPath? (s : Session) (name : List Char) : Option (List Char) :=
  if name.contains '/' then some name
  else
    let paths := s.searched.map (nameIn · name)
    paths.find? fun path ↦ s.files.isFile (Session.pathOf path)

/-- Runs the script in a file in the present shell. -/
def sourceCommand : Builtin := fun arguments ↦ do
  let (_, operands) ← optionsOf "" "" arguments
  match operands with
  | [] => pure 0
  | name :: _ =>
    let s ← get
    let path ← match scriptPath? s name with
      | some path => pure path
      | none => Work.fail (name ++ ": not found".toList)
    match s.files.node (Session.pathOf path) with
    | .error cause => failOpening false path cause
    | .ok _ =>
      let text := Bytes.chars ((s.files.read (Session.pathOf path)).toOption.getD [])
      set { s with builtin := some path }
      let done : Except Leave Unit ←
        Act.attempt (runText run false text (scriptAudience run false))
      modify fun s' ↦ { s' with builtin := s.builtin }
      match done with
      | .ok () | .error (.returned _) => return (← get).status
      | .error leave => throw leave

/-- Runs a program in place of the shell. -/
def execCommand : Builtin := fun arguments ↦ do
  if arguments = [] then pure 0
  else
    let s ← get
    let name := arguments.headD []
    let paths := if name.contains '/' then [name] else s.searched.map (nameIn · name)
    runIdle run
    let status ← match ← startFirst run arguments .missing paths with
      | .ok status => pure status
      | .error cause => do
        Work.warn (name ++ ": ".toList ++ startFault cause)
        pure (failedStart cause)
    modify fun s ↦ { s with status, traps := s.traps.filter (·.1 ≠ Signal.farewell) }
    throw .exited

/-- Waits for commands beside the shell. A signal that is to be answered ends that. -/
def awaitCommand : Builtin := fun arguments ↦ do
  let before ← get
  runIdle run
  match ((← get).came.drop before.came.length).filter (· ≠ Signal.childEnded) with
  | [] => waitCommand (before.idle.map (·.process)) arguments
  | signal :: _ => pure (128 + signal)

/-- What a name stands for. -/
inductive Meaning where
  /-- A function. -/
  | function (body : Command)
  /-- A builtin command. -/
  | builtin (act : Builtin)
  /-- A program, or nothing. -/
  | program

/-- The builtin command with a name. -/
def builtinNamed? (tested : Bool) (name : String) : Option Builtin :=
  match name with
  | "eval" => some (evalCommand run tested)
  | "." => some (sourceCommand run)
  | "exec" => some (execCommand run)
  | "command" => some describeCommand
  | "type" => some typeCommand
  | "hash" => some hashCommand
  | "wait" => some (awaitCommand run)
  | name => (builtins.lookup name).or (supervisions.lookup name)

/-- What a name stands for in a session. -/
def meaningOf (tested : Bool) (s : Session) (functions : Bool) (name : String) : Meaning :=
  match if functions then s.functions.lookup name else none with
  | some body => .function body
  | none =>
    match builtinNamed? run tested name with
    | some act => .builtin act
    | none => .program

/-- How the first word of a command is looked up. -/
structure Manner where
  /-- Whether it may be a function. -/
  functions : Bool := true
  /-- Whether programs are looked for in the usual directories. -/
  usual : Bool := false

/-- Words without a `command` at their beginning, and how the first of them is looked up. -/
def stripCommand (s : Session) : (most : Nat) → List (List Char) → List (List Char) × Manner
  | most + 1, name :: rest =>
    if name ≠ "command".toList || (s.functions.lookup "command").isSome then (name :: rest, {})
    else
      let isOption (w : List Char) := w.head? = some '-' && w.tail ≠ [] && w.tail.all (· = 'p')
      let inner := rest.dropWhile isOption
      let usual := rest.head?.any isOption
      let inner := if inner.head? = some ['-', '-'] then inner.tail else inner
      match inner with
      | [] => (name :: rest, {})
      | first :: _ =>
        if first.head? = some '-' && first ≠ ['-'] then (name :: rest, {})
        else
          let (words, manner) := stripCommand s most inner
          (words, { functions := false, usual := usual || manner.usual })
  | _, words => (words, {})

/-! ## Simple commands -/

/-- Runs a builtin command under its name. A failure ends the shell if the command is special. -/
def invoke (special : Bool) (name : List Char) (act : Work Nat) : Work Unit := do
  let before ← get
  set { before with builtin := some name, broken := false }
  let done : Except Leave Nat ← Act.attempt act
  let broken := (← get).broken
  if done.isOk && broken then Work.warn (name ++ ": I/O error".toList)
  modify fun s ↦ { s with builtin := before.builtin, broken := before.broken }
  match done with
  | .ok status => Work.ends (if broken && status % 2 = 0 then status + 1 else status)
  | .error .failed => if special then throw .failed
  | .error leave => throw leave

/-- Sets variables back to what they were; the newest entry of a variable comes first. -/
def restoreBindings (hidden : List (String × Option Binding)) (s : Session) : Session :=
  hidden.foldl restore s
where
  /-- Sets a variable back. Options are read on from where it says. -/
  restore (s : Session) (entry : String × Option Binding) : Session :=
    let (name, b) := entry
    let s := (s.bind name b).heed name
    match name, b.bind Binding.value? with
    | "OPTIND", some value => { s with scan := { next := some (decimalValue value) } }
    | _, _ => s

/-- How many functions a command may be in. -/
def callLimit : Nat := 1000

/-- Runs a function with arguments of its own. -/
def callFunction (tested : Bool) (body : Command) (arguments : List (List Char)) : Work Unit := do
  let before ← get
  if callLimit ≤ before.calls then
    Work.fail ("Maximum function recursion depth (".toList ++ (toString callLimit).toList ++
      ") reached".toList)
  set { before with
    arguments, scan := {}, hidden := some [], hiddenSwitches := none
    loops := 0, calls := before.calls + 1 }
  let done : Except Leave Unit ← Act.attempt (run tested body)
  modify fun s ↦ restoreBindings (s.hidden.getD [])
    { s with
      arguments := before.arguments
      scan := before.scan
      hidden := before.hidden
      switches := s.hiddenSwitches.getD s.switches
      hiddenSwitches := before.hiddenSwitches
      loops := before.loops
      calls := before.calls }
  match done with
  | .ok () | .error (.returned _) => pure ()
  | .error leave => throw leave

/-- Runs `act` while variables hold other values, which programs get to know. -/
def withBindings (values : List (String × List Char)) (act : Work Unit) : Work Unit := do
  let before ← get
  let hidden := values.reverse.map fun (name, _) ↦ (name, before.binding? name)
  let done : Except Leave Unit ← Act.attempt do
    values.forM fun (name, value) ↦ do
      Work.assign name value
      modify fun s ↦ s.bind name ((s.binding? name).map fun b ↦ { b with exported := true })
    act
  modify (restoreBindings hidden)
  Act.ofExcept done

/-- The fields of the first words that give any, and the words that are left. -/
def expandFirst (capture : Capture) : List Word → Work (List (List Char) × List Word)
  | [] => pure ([], [])
  | w :: rest => do
    match ← expandWords capture [w] with
    | [] => expandFirst capture rest
    | fields => pure (fields, rest)

/-- The fields of words that may assign: an assignment is one field. -/
def expandAssigning (capture : Capture) (words : List Word) : Work (List (List Char)) := do
  let fields ← words.mapM fun w ↦ do
    match Word.assignment? w with
    | some (name, value) =>
      return [name.toList ++ '=' :: (← expandText capture { assigns := true } value)]
    | none => expandWords capture [w]
  return fields.flatten

/-- The values of assignments. -/
def expandValues (capture : Capture) (assignments : List (String × Word)) :
    Work (List (String × List Char)) :=
  assignments.mapM fun (name, value) ↦ do
    return (name, ← expandText capture { assigns := true } value)

/-- Shows a command before it is run, if that is asked for. -/
def trace (position : Option Nat) (values : List (String × List Char))
    (fields : List (List Char)) : Work Unit := do
  let s ← get
  if s.has .xtrace && !s.traces then
    let words := values.map (fun (name, value) ↦ name.toList ++ '=' :: value) ++ fields
    set { s with traces := true }
    let lead ← expandPrompt run "PS4"
    modify fun s ↦ { s with traces := false }
    let text := lead ++ [' '].intercalate words ++ ['\n']
    match position with
    | none => pure ()
    | some position =>
      let before := (← get).streams.positions
      modify fun s ↦ { s with streams := s.streams.lead 2 position }
      Work.put 2 text
      modify fun s ↦ { s with streams := { s.streams with positions := before } }

/-- Runs a command without words: its assignments stay. -/
def runAssignments (assignments : List (String × Word)) (redirects : List (Redirect Word)) :
    Work Unit := do
  let capture := captureOutput run
  let position := (← get).streams.position? 2
  let _ ← redirecting capture (← expandTargets capture redirects) do
    let values ← assignments.mapM fun (name, w) ↦ do
      let value ← expandText capture { assigns := true } w
      Work.assign name value
      pure (name, value)
    trace run position values []
    Work.ends (← get).substituted
    pure false

/-- Runs assignments and words on a line. -/
def runSimple (tested : Bool) (line : Nat) (assignments : List (String × Word))
    (words : List Word) (redirects : List (Redirect Word)) : Work Unit := do
  modify fun s ↦ { s with line, substituted := 0 }
  let capture := captureOutput run
  let (first, rest) ← expandFirst capture words
  match first with
  | [] => runAssignments run assignments redirects
  | name :: _ =>
    let s ← get
    let assigning := ["export", "readonly", "local"].contains (String.ofList name) &&
      (s.functions.lookup (String.ofList name)).isNone
    let fields := first ++
      (← if assigning then expandAssigning capture rest else expandWords capture rest)
    let (inner, manner) := stripCommand s fields.length fields
    let name := inner.headD []
    let meaning := meaningOf run tested s manner.functions (String.ofList name)
    let special := manner.functions && specialBuiltins.contains (String.ofList name) &&
      (match meaning with
        | .builtin _ => true
        | _ => false)
    let position := s.streams.position? 2
    let opened ← redirecting capture (← expandTargets capture redirects) do
      let values ← expandValues capture assignments
      trace run position values fields
      match meaning with
      | .builtin act =>
        if special then
          values.forM fun (name, value) ↦ Work.assign name value
          invoke special name (act inner.tail)
        else withBindings values (invoke special name (act inner.tail))
      | .function body => withBindings values (callFunction run tested body inner.tail)
      | .program => withBindings values do Work.ends (← runExternal run manner.usual inner)
      pure (name = "exec".toList)
    if !opened && special then throw .failed

/-! ## Commands of several parts -/

/-- Finds the program that a command names, to remember it. -/
def foresee (command : Command) : Work Unit := do
  match command with
  | .simple _ _ (w :: _) _ =>
    match Word.bare? w with
    | some name =>
      let isOther := isBuiltinName name || ((← get).functions.lookup name).isSome
      if isName name.toList && !isOther then
        let _ ← findPlace name.toList
    | none => pure ()
  | _ => pure ()

/-- Runs commands, the output of each being the input of the next; the first reads from the opening
at `input`. The answer is the last status. -/
def runPiped (tested : Bool) (input : Option Nat) : List Command → Work Nat
  | [] => pure 0
  | command :: rest => do
    let connect (s : Session) : Session :=
      match input with
      | some position => { s with streams := s.streams.lead 0 position }
      | none => s
    foresee command
    if rest = [] then inSubshell run connect (run tested command)
    else
      let position := (← get).streams.openings.length
      let attach (s : Session) : Session := { s with streams := s.streams.attach 1 (.record []) }
      let _ ← inSubshell run (fun s ↦ attach (connect s)) (run tested command)
      modify fun s ↦
        let supply := Opening.supply (s.streams.recorded position)
        { s with streams := { s.streams with openings := s.streams.openings.set position supply } }
      runPiped tested (some position) rest

/-- What is left of a loop after its body, or after its condition: whether it goes on. -/
def leaveLoop (act : Work Unit) : Work (Option Bool) := do
  modify fun s ↦ { s with loops := s.loops + 1 }
  let done : Except Leave Unit ← Act.attempt act
  modify fun s ↦ { s with loops := s.loops - 1 }
  match done with
  | .ok () => pure none
  | .error (.broken n) => if n ≤ 1 then pure (some false) else throw (.broken (n - 1))
  | .error (.continued n) => if n ≤ 1 then pure (some true) else throw (.continued (n - 1))
  | .error leave => throw leave

/-- Runs a body again and again while its condition succeeds (`wanted`) or fails; `last` is the
status of the last round. -/
def runLoop (tested wanted : Bool) (condition body : Command) :
    (rounds : Nat) → (last : Nat) → Work Unit
  | 0, last => Work.ends last
  | rounds + 1, last => do
    match ← leaveLoop (run true condition) with
    | some true => runLoop tested wanted condition body rounds last
    | some false => Work.ends last
    | none =>
      if ((← get).status == 0) != wanted then Work.ends last
      else
        match ← leaveLoop (run tested body) with
        | some false => pure ()
        | _ => runLoop tested wanted condition body rounds (← get).status

/-- Runs a body for each value of a variable; `last` is the status of the last round. -/
def runEach (tested : Bool) (name : String) (body : Command) :
    List (List Char) → (last : Nat) → Work Unit
  | [], last => Work.ends last
  | value :: rest, _ => do
    Work.assign name value
    match ← leaveLoop (run tested body) with
    | some false => pure ()
    | _ => runEach tested name body rest (← get).status

/-- Whether a pattern of a case matches a text. -/
def anyMatches (capture : Capture) (text : List Char) : List Word → Work Bool
  | [] => pure false
  | w :: rest => do
    if matchesPattern (← expandPattern capture w) text then pure true
    else anyMatches capture text rest

/-- Runs the body of the first case that has a pattern for a text. -/
def runChoice (tested : Bool) (text : List Char) : List (List Word × Command) → Work Unit
  | [] => Work.ends 0
  | (patterns, body) :: rest => do
    if ← anyMatches (captureOutput run) text patterns then run tested body
    else runChoice tested text rest

/-- How many rounds a loop may have. -/
def roundLimit : Nat := 1000000

/-- Starts a command beside the shell, which does not wait for it. Nothing is at its input. -/
def putOff (command : Command) : Work Unit := do
  let parts := match command with
    | .pipeline commands => commands.length
    | _ => 1
  modify fun s ↦
    let (others, number) := Job.makePlace s.jobs
    let process := s.beside.getD s.process + 1
    let session := { s.part with streams := s.streams.attach 0 (.supply []) }
    { s with
      streams := { s.streams with openings := session.streams.openings }
      status := 0
      beside := some process
      jobs := { number, process, parts : Job } :: others
      idle := s.idle ++ [{ process, command, session }] }

/-- Runs a command by the rules of its form. -/
def performForm (tested : Bool) (command : Command) : Work Unit := do
  if (← get).has .noexec then pure ()
  else
    match command with
    | .skip => Work.ends 0
    | .simple line assignments words redirects =>
      runSimple run tested line assignments words redirects
      checkFailure tested
    | .pipeline commands =>
      runIdle run
      Work.ends (← runPiped run tested none commands)
      checkFailure tested
    | .sequence first second =>
      run tested first
      run tested second
    | .andThen first second =>
      run true first
      if (← get).status = 0 then run tested second
    | .orElse first second =>
      run true first
      if (← get).status ≠ 0 then run tested second
    | .negate command =>
      run true command
      Work.ends (if (← get).status = 0 then 1 else 0)
    | .background command => putOff command
    | .subshell line body redirects =>
      modify fun s ↦ { s with line }
      let targets ← expandTargets (captureOutput run) redirects
      runIdle run
      Work.ends (← inSubshell run id do
        targets.forM fun (stream, t) ↦ redirectTo (captureOutput run) false stream t
        run tested body)
      checkFailure tested
    | .branch condition yes no =>
      run true condition
      if (← get).status = 0 then run tested yes else run tested no
    | .loop wanted condition body => runLoop run tested wanted condition body roundLimit 0
    | .each line name words body =>
      modify fun s ↦ { s with line }
      let values ← expandWords (captureOutput run) words
      runEach run tested name body values 0
    | .choice line w cases =>
      modify fun s ↦ { s with line }
      runChoice run tested (← expandText (captureOutput run) {} w) cases
    | .redirected line body redirects =>
      modify fun s ↦ { s with line }
      let capture := captureOutput run
      let opened ← redirecting capture (← expandTargets capture redirects) do
        run tested body
        pure false
      if !opened then checkFailure tested
    | .define name body =>
      modify fun s ↦
        { s with
          functions := (name, body) :: s.functions.filter (·.1 ≠ name)
          found := s.found.filter (·.name ≠ name.toList)
          status := 0 }

/-- Runs a command, and answers the signals that came before its end. -/
def perform (tested : Bool) (command : Command) : Work Unit := do
  performForm run tested command
  answerSignals run

end

/-- Runs a command, with others inside it up to a depth. -/
def runAt : (depth : Nat) → Runner
  | 0, _, _ => Work.fail "Commands too deep".toList
  | depth + 1, tested, command => perform (runAt depth) tested command

/-- How deep commands may be inside commands. -/
def depthLimit : Nat := 100000

end KernelForge.Shell
