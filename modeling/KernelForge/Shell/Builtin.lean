import KernelForge.Shell.Condition
import KernelForge.Shell.Fields
import KernelForge.Shell.Format

/-!
# Builtin commands

A builtin command works on the session of the shell itself and answers a status. Those that run
other commands are not among them.
-/

namespace KernelForge.Shell

/-- A builtin command: what it does with its arguments, and its status. -/
abbrev Builtin : Type := List (List Char) → Work Nat

/-- The letters of the options before the operands, and the operands. With `valued`, a letter takes
an argument. A letter that is not among `known` is complained of. -/
def leadingOptions (known valued : List Char) :
    (most : Nat) → List (List Char) → Work (List Char × List (List Char))
  | most + 1, ('-' :: c :: more) :: rest =>
    if c = '-' && more = [] then pure ([], rest)
    else
      match (c :: more).find? (fun c ↦ !(known.contains c || valued.contains c)) with
      | some c => Work.fail ("Illegal option -".toList ++ [c])
      | none =>
        match (c :: more).dropWhile (!valued.contains ·), rest with
        | [], rest => do
          let (letters, operands) ← leadingOptions known valued most rest
          pure (c :: more ++ letters, operands)
        | [v], [] => Work.fail ("No arg for -".toList ++ v :: " option".toList)
        | [_], _ :: rest | _ :: _ :: _, rest => do
          let (letters, operands) ← leadingOptions known valued most rest
          pure ((c :: more).takeWhile (!valued.contains ·) ++ letters, operands)
  | _, operands => pure ([], operands)

/-- The options and operands of a builtin command. -/
def optionsOf (known valued : String) (arguments : List (List Char)) :
    Work (List Char × List (List Char)) :=
  leadingOptions known.toList valued.toList (arguments.length + 1) arguments

/-! ## Output -/

/-- Writes words. -/
def echoCommand : Builtin := fun arguments ↦ do
  Work.print (echo arguments)
  pure 0

/-- Writes arguments in a format. What was complained of comes first. -/
def printfCommand : Builtin := fun arguments ↦ do
  match ← optionsOf "" "" arguments with
  | (_, []) => Work.fail "usage: printf format [arg ...]".toList
  | (_, format :: arguments) =>
    let (halt, f) := formatAll format arguments
    f.complaints.forM Work.warn
    match halt with
    | some (.fault text) => do
      Work.warn text
      Work.print f.text
      Work.ends 2
      throw .failed
    | _ => do
      Work.print f.text
      pure (if f.complaints = [] then 0 else 1)

/-! ## Directories -/

/-- The segments of a path that follow those of `before`; a dot is nothing and two dots take one
away. -/
def logicalSegments (before : List Bytes) : List Bytes → List Bytes
  | [] => before
  | segment :: rest =>
    if segment = Path.dot then logicalSegments before rest
    else if segment = Path.dotDot then logicalSegments before.dropLast rest
    else logicalSegments (before ++ [segment]) rest

/-- The path that `target` means to someone who came to `directory`, if that is known. -/
def logicalPath? (directory target : List Char) : Option (List Char) :=
  let p := Session.pathOf target
  if !p.isAbsolute && directory = [] then none
  else
    let before := if p.isAbsolute then [] else (Session.pathOf directory).segments
    let twice := target.take 2 = ['/', '/'] && target[2]? ≠ some '/'
    let path := Session.textOf (Path.ofNames (logicalSegments before p.segments))
    some (if twice then '/' :: path else path)

/-- The directory that the files are seen from, or nothing if it is gone. -/
def physicalDirectory (s : Session) : List Char :=
  match s.files.current with
  | .ok p => Session.textOf p
  | .error _ => []

/-- The texts between colons. -/
def colonParts : List Char → List (List Char)
  | [] => [[]]
  | c :: rest =>
    if c = ':' then [] :: colonParts rest
    else
      match colonParts rest with
      | [] => [[c]]
      | part :: more => (c :: part) :: more

/-- A name in a directory of a list, where no directory means the current one. -/
def nameIn (directory name : List Char) : List Char :=
  if directory = [] then name else directory ++ '/' :: name

/-- Whether a path begins at the root, at the current directory or at the one above it. -/
def isPlacedPath : List Char → Bool
  | '/' :: _ => true
  | '.' :: '.' :: rest | '.' :: rest => rest = [] || rest.head? = some '/'
  | _ => false

/-- The directory that a target means: the first one of that name in the directories that are
searched, and whether to show where it is. -/
def searchDirectory (s : Session) (target : List Char) : List Char × Bool :=
  if isPlacedPath target then (target, false)
  else
    let name := if target = [] then ['.'] else target
    let places := ((s.value? "CDPATH").map colonParts).getD []
    match places.find? fun place ↦ s.files.isDirectory (Session.pathOf (nameIn place name)) with
    | some place => (nameIn place name, place ≠ [])
    | none => (target, false)

/-- Goes to a directory, and shows it if asked to. -/
def cdCommand : Builtin := fun arguments ↦ do
  let (letters, operands) ← optionsOf "LP" "" arguments
  let s ← get
  let target := match operands with
    | [] => (s.value? "HOME").getD []
    | ['-'] :: _ => (s.value? "OLDPWD").getD []
    | target :: _ => target
  let (place, shows) := searchDirectory s target
  let logical := if letters.getLast? = some 'P' then none else logicalPath? s.directory place
  let path := logical.getD (if place = [] then ['.'] else place)
  match ← Work.onFiles (Files.changeDirectory (Session.pathOf path)) with
  | .error _ => Work.fail ("can't cd to ".toList ++ target)
  | .ok () => do
    let directory := logical.getD (physicalDirectory (← get))
    Work.assign "OLDPWD" s.directory
    Work.assign "PWD" directory
    modify fun s ↦ { (s.giveAll "OLDPWD" s.directory).giveAll "PWD" directory with
      directory, found := s.found.map fun f ↦ { f with stale := true } }
    if shows || operands.head? = some ['-'] then Work.print (directory ++ ['\n'])
    pure 0

/-- Shows the current directory. -/
def pwdCommand : Builtin := fun arguments ↦ do
  let (letters, _) ← optionsOf "LP" "" arguments
  let s ← get
  if letters.getLast? = some 'P' then
    match s.files.current with
    | .ok p => Work.print (Session.textOf p ++ ['\n'])
    | .error cause =>
      Work.warn ("getcwd() failed: ".toList ++ cause.describe.1.toList)
      Work.print ['\n']
  else Work.print (s.directory ++ ['\n'])
  pure 0

/-! ## Variables -/

/-- A line of input while it is read. -/
structure InputLine where
  /-- The stretches that are complete. -/
  stretches : List Stretch := []
  /-- How many characters were read. -/
  length : Nat := 0
  /-- Whether the end of the line was read. -/
  complete : Bool := false

/-- Reads a line behind what was read of it, where `run` is the present stretch, its last character
first, and `escaped` tells whether a backslash came before. Zero bytes do not count. -/
def readInput (raw escaped : Bool) (run : List Char) (l : InputLine) : List Char → InputLine
  | [] => { l with stretches := l.stretches ++ [.loose (mark false run.reverse)] }
  | c :: rest =>
    let l := { l with length := l.length + 1 }
    if c = '\x00' then readInput raw escaped run l rest
    else if escaped then
      let cut := l.stretches ++ [.loose (mark false run.reverse)]
      let stretches := if c = '\n' then cut else cut ++ [.fixed (mark true [c])]
      readInput raw false [] { l with stretches } rest
    else if c = '\\' && !raw then readInput raw true run l rest
    else if c = '\n' then
      { l with stretches := l.stretches ++ [.loose (mark false run.reverse)], complete := true }
    else readInput raw false (c :: run) l rest

/-- Gives variables the fields of a line; the last one gets all that is left. -/
def assignFields : List (List Char) → List (List Char) → Work Unit
  | [], _ => pure ()
  | name :: rest, fields => do
    if !isName name then Work.fail (name ++ ": bad variable name".toList)
    Work.assign (String.ofList name) (fields.headD [])
    assignFields rest fields.tail

/-- Reads a line of the input into variables. -/
def readCommandLine : Builtin := fun arguments ↦ do
  let (letters, names) ← optionsOf "r" "p" arguments
  if names = [] then Work.fail "arg count".toList
  let s ← get
  let input := (s.pending? 0).getD []
  let l := readInput (letters.contains 'r') false [] {} input
  set (s.skip 0 l.length)
  assignFields names ((fieldsOf s.gaps (some names.length) l.stretches).map unmark)
  pure (if l.complete then 0 else 1)

/-- A word that may assign: its name and value. -/
def splitAssignment (word : List Char) : List Char × Option (List Char) :=
  match word.dropWhile (· ≠ '=') with
  | _ :: value => (word.takeWhile (· ≠ '='), some value)
  | [] => (word, none)

/-- A text between quotation marks, which a shell would read back. -/
def quoteValue (text : List Char) : List Char :=
  '\'' :: (text.flatMap fun c ↦ if c = '\'' then "'\"'\"'".toList else [c]) ++ ['\'']

/-- Shows variables in order, each behind a word. -/
def showVariables (word : List Char) (which : Binding → Bool) : Work Unit := do
  let shown := (← get).bindings.filterMap fun (name, b) ↦
    if which b then
      some (word ++ name.toList ++ ((b.value?.map fun value ↦ '=' :: quoteValue value).getD []))
    else none
  (shown.mergeSort isSorted).forM fun text ↦ Work.print (text ++ ['\n'])

/-- Sets variables, or changes how they are held. -/
def holdCommand (word : String) (which : Binding → Bool) (change : Binding → Binding) : Builtin :=
  fun arguments ↦ do
    let (_, operands) ← optionsOf "p" "" arguments
    if operands = [] then showVariables (word.toList ++ [' ']) which
    operands.forM fun operand ↦ do
      let (name, value?) := splitAssignment operand
      if !isName name then Work.fail (name ++ ": bad variable name".toList)
      let name := String.ofList name
      value?.forM (Work.assign name)
      modify fun s ↦ s.bind name (some (change ((s.binding? name).getD {})))
    pure 0

/-- Forgets variables and functions. -/
def unsetCommand : Builtin := fun arguments ↦ do
  let (letters, operands) ← optionsOf "vf" "" arguments
  operands.forM fun operand ↦ do
    let name := String.ofList operand
    let s ← get
    if letters.getLast? = some 'f' then
      set { s with functions := s.functions.filter (·.1 ≠ name) }
    else if !isName operand then Work.fail (operand ++ ": bad variable name".toList)
    else if ((s.binding? name).map Binding.readonly).getD false then
      Work.fail (operand ++ ": is read only".toList)
    else if name = "OPTIND" then Work.noNumber []
    else set ((s.bind name none).heed name)
  pure 0

/-- Makes variables, or the switches, those of the present function. -/
def localCommand : Builtin := fun arguments ↦ do
  if (← get).hidden.isNone then Work.fail "not in a function".toList
  arguments.forM fun operand ↦ do
    let s ← get
    if operand = ['-'] then set { s with hiddenSwitches := s.hiddenSwitches.or s.switches }
    else
      let (name, value?) := splitAssignment operand
      if !isName name then Work.fail (name ++ ": bad variable name".toList)
      let name := String.ofList name
      set { s with hidden := s.hidden.map ((name, s.binding? name) :: ·) }
      value?.forM (Work.assign name)
  pure 0

/-! ## Switches and arguments -/

/-- Turns the switch with a letter on or off. Of two ways of editing only one stays on. -/
def turnLetter (on : Bool) (letter : Char) : Work Unit :=
  match Switch.lettered? letter with
  | some switch => modify fun s ↦
    let s := match switch.rival? with
      | some rival => if on then s.turn false rival else s
      | none => s
    s.turn on switch
  | none => Work.fail ("Illegal option -".toList ++ [letter])

/-- Shows which switches are on, or how to turn them so. -/
def showSwitches (asCommands : Bool) : Work Unit := do
  let s ← get
  Switch.all.forM fun switch ↦
    let on := s.has switch
    Work.print <| String.toList <|
      if asCommands then "set " ++ (if on then "-o " else "+o ") ++ switch.name ++ "\n"
      else
        String.ofList (switch.name.toList ++ List.replicate (16 - switch.name.length) ' ') ++
          (if on then "on\n" else "off\n")

/-- Turns the switch with a name on or off. -/
def turnNamed (on : Bool) (name : List Char) : Work Unit :=
  match Switch.named? (String.ofList name) with
  | some switch => modify (·.turn on switch)
  | none => Work.fail ("Illegal option -o ".toList ++ name)

/-- Turns switches on or off by letters. One of them asks for a name, which is the next argument;
without arguments all switches are shown. The answer holds the arguments that are left. -/
def turnLetters (on : Bool) : (letters : List Char) → List (List Char) → Work (List (List Char))
  | [], rest => pure rest
  | 'o' :: letters, name :: rest => do
    turnNamed on name
    turnLetters on letters rest
  | 'o' :: letters, [] => do
    if on then Work.print "Current option settings\n".toList
    showSwitches (!on)
    turnLetters on letters []
  | c :: letters, rest => do
    turnLetter on c
    turnLetters on letters rest

/-- Jobs are never controlled, since there is no terminal. -/
def giveUpControl : Work Unit := do
  if (← get).has .monitor then
    Work.warn "can't access tty; job control turned off".toList
    modify (·.turn false .monitor)

/-- Turns switches as the options before the operands say. The answer holds the operands, and
whether they replace the arguments even if there are none. -/
def takeOptions : (most : Nat) → List (List Char) → Work (List (List Char) × Bool)
  | most + 1, (sign :: letters) :: rest =>
    if sign = '-' && letters = ['-'] then pure (rest, true)
    else if sign = '-' && letters = [] then do
      modify fun s ↦ (s.turn false .xtrace).turn false .verbose
      pure (rest, false)
    else if sign = '-' || sign = '+' then do
      takeOptions most (← turnLetters (sign = '-') letters rest)
    else pure ((sign :: letters) :: rest, false)
  | _, operands => pure (operands, false)

/-- Gives the shell other arguments, whose options are read from the beginning. -/
def Session.withArguments (s : Session) (arguments : List (List Char)) : Session :=
  { s with arguments, scan := {} }

/-- Sets switches and arguments. -/
def setCommand : Builtin := fun arguments ↦ do
  if arguments = [] then showVariables [] (·.value?.isSome)
  else
    let (operands, replaces) ← takeOptions arguments.length arguments
    giveUpControl
    if replaces || operands ≠ [] then modify (·.withArguments operands)
  pure 0

/-- Drops arguments. -/
def shiftCommand : Builtin := fun arguments ↦ do
  let n ← (arguments.head?.map Work.natural).getD (pure 1)
  let s ← get
  if s.arguments.length < n then Work.fail "can't shift that many".toList
  set (s.withArguments (s.arguments.drop n))
  pure 0

/-- Reads the next option of its arguments, or of those of the shell, into variables. -/
def getoptsCommand : Builtin := fun arguments ↦ do
  let (_, operands) ← optionsOf "" "" arguments
  match operands with
  | known :: target :: words => do
    let s ← get
    let (result, scan) := s.scan.step known (if words = [] then s.arguments else words)
    let quiet := known.head? = some ':'
    set { s with scan := { next := none } }
    let letter ← match result with
      | .finish => pure '?'
      | .option letter argument => do
        Work.assign "OPTARG" argument
        pure letter
      | .unknown letter => do
        complain quiet letter ("Illegal option -".toList ++ [letter])
        pure '?'
      | .lacking letter => do
        complain quiet letter ("No arg for -".toList ++ letter :: " option".toList)
        pure (if quiet then ':' else '?')
    let next := scan.next.getD 1
    Work.assign "OPTIND" (toString next).toList
    modify fun s ↦ { s with scan := { next := none } }
    let name := String.ofList target
    if !isName target then Work.fail (target ++ ": bad variable name".toList)
    Work.assign name [letter]
    modify fun s ↦ { s with scan }
    pure (match result with
      | .finish => 1
      | _ => 0)
  | _ => Work.fail "Usage: getopts optstring var [arg...]".toList
where
  /-- Tells of an option in a variable, or complains of it. -/
  complain (quiet : Bool) (letter : Char) (text : List Char) : Work Unit := do
    if quiet then Work.assign "OPTARG" [letter]
    else
      Work.put 2 (text ++ ['\n'])
      let s ← get
      if ((s.binding? "OPTARG").map Binding.readonly).getD false then
        Work.fail "OPTARG: is read only".toList
      else set (s.bind "OPTARG" none)

/-! ## Aliases -/

/-- How many buckets aliases are kept in. -/
def aliasBuckets : Nat := 39

/-- Shows what a name stands for. -/
def showAlias (name text : List Char) : Work Unit :=
  Work.print (name ++ '=' :: quoteValue text ++ ['\n'])

/-- Makes names stand for texts, or shows what they stand for. -/
def aliasCommand : Builtin := fun arguments ↦ do
  if arguments = [] then
    (inBuckets aliasBuckets (·.1) (← get).aliases).forM fun (name, text) ↦ showAlias name text
  let statuses ← arguments.mapM fun argument ↦ do
    let s ← get
    let name := argument.take 1 ++ (argument.drop 1).takeWhile (· ≠ '=')
    match argument.drop name.length, s.aliases.lookup argument with
    | _ :: text, _ => do
      let aliases :=
        if (s.aliases.lookup name).isNone then s.aliases ++ [(name, text)]
        else s.aliases.map fun (other, old) ↦ (other, if other = name then text else old)
      set { s with aliases }
      pure 0
    | [], some text => do
      showAlias argument text
      pure 0
    | [], none => do
      Work.put 2 ("alias: ".toList ++ argument ++ " not found\n".toList)
      pure 1
  pure (statuses.foldl max 0)

/-- Forgets what names stand for. -/
def unaliasCommand : Builtin := fun arguments ↦ do
  let (letters, operands) ← optionsOf "a" "" arguments
  if letters ≠ [] then
    modify fun s ↦ { s with aliases := [] }
    pure 0
  else
    let statuses ← operands.mapM fun name ↦ do
      let s ← get
      if (s.aliases.lookup name).isSome then
        set { s with aliases := s.aliases.filter (·.1 ≠ name) }
        pure 0
      else
        Work.put 2 ("unalias: ".toList ++ name ++ " not found\n".toList)
        pure 1
    pure (statuses.foldl max 0)

/-! ## Conditions and control -/

/-- Tells whether a condition holds. -/
def testCommand : Builtin := fun arguments ↦ do
  match holds (← get).files arguments.length arguments with
  | .ok true => pure 0
  | .ok false => pure 1
  | .error text => Work.fail text

/-- Tells whether a condition between brackets holds. -/
def bracketCommand : Builtin := fun arguments ↦
  if (arguments.getLast?.bind List.head?) = some ']' then testCommand arguments.dropLast
  else Work.fail "missing ]".toList

/-- Leaves loops. -/
def leaveLoops (leave : Nat → Leave) : Builtin := fun arguments ↦ do
  let n ← (arguments.head?.map Work.natural).getD (pure 1)
  if n = 0 then Work.noNumber (arguments.headD [])
  let loops := (← get).loops
  let n := if loops < n then loops else n
  if 0 < n then
    Work.ends 0
    throw (leave n)
  pure 0

/-- Leaves a function. -/
def returnCommand : Builtin := fun arguments ↦ do
  match arguments with
  | [] => throw (.returned false)
  | text :: _ =>
    Work.ends (← Work.natural text)
    throw (.returned true)

/-- Leaves the shell with a status, which is the last one unless it is given. -/
def exitCommand : Builtin := fun arguments ↦ do
  match arguments, (← get).resumed with
  | [], none => pure ()
  | [], some status => Work.ends status
  | text :: _, _ => Work.ends (← Work.natural text)
  throw .exited

/-- The builtin commands that run no other commands. -/
def builtins : List (String × Builtin) :=
  [(":", fun _ ↦ pure 0), ("true", fun _ ↦ pure 0), ("false", fun _ ↦ pure 1),
    ("echo", echoCommand), ("printf", printfCommand), ("cd", cdCommand), ("chdir", cdCommand),
    ("pwd", pwdCommand), ("read", readCommandLine),
    ("export", holdCommand "export" Binding.exported fun b ↦ { b with exported := true }),
    ("readonly", holdCommand "readonly" Binding.readonly fun b ↦ { b with readonly := true }),
    ("unset", unsetCommand), ("local", localCommand), ("set", setCommand), ("shift", shiftCommand),
    ("test", testCommand), ("[", bracketCommand), ("break", leaveLoops .broken),
    ("continue", leaveLoops .continued), ("return", returnCommand), ("exit", exitCommand),
    ("getopts", getoptsCommand), ("alias", aliasCommand), ("unalias", unaliasCommand)]

end KernelForge.Shell
