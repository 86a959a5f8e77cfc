import KernelForge.Shell.Program
import KernelForge.Shell.Source
import KernelForge.Shell.Supervision

/-!
# Looking up names

A name at the beginning of a command stands for a function, a builtin command, or a program in one
of the directories that are searched. A program that was found is remembered, also when it is gone.
-/

namespace KernelForge.Shell

/-- The directories that are searched for programs. -/
def Session.searched (s : Session) : List (List Char) := colonParts ((s.value? "PATH").getD [])

/-- The directories that are searched for programs if the usual ones are asked for. -/
def usualDirectories : List (List Char) :=
  ["/usr/local/sbin", "/usr/local/bin", "/usr/sbin", "/usr/bin", "/sbin", "/bin"].map String.toList

/-- Why a program cannot be started, in the words of a shell. -/
def startFault (cause : Cause) : List Char :=
  match cause with
  | .missing | .notDirectory => "not found".toList
  | cause => cause.describe.1.toList

/-- The status of a shell whose program cannot be started. -/
def failedStart (cause : Cause) : Nat :=
  match cause with
  | .missing | .notDirectory | .tooLong | .tooManyLinks => 127
  | _ => 126

/-- The place of the first file that may be run under a name in some directories, or why there is
none. Where it was found before, no absolute directory up to that place is looked at again. -/
def searchPlace (f : Files) (name : List Char) (before? : Option Nat)
    (directories : List (List Char)) : Except Cause Nat :=
  let path (directory : List Char) : Path := Session.pathOf (nameIn directory name)
  let isPlace (entry : List Char × Nat) : Bool :=
    match before?, entry with
    | some before, ('/' :: directory, i) =>
      if i ≤ before then i = before else f.isRunnable (path ('/' :: directory))
    | _, (directory, _) => f.isRunnable (path directory)
  match directories.zipIdx.find? isPlace with
  | some (_, i) => .ok i
  | none =>
    if directories.any fun directory ↦ (f.node (path directory)).isOk then .error .denied
    else .error .missing

/-- The place of the program with a name among the directories that are searched. It is remembered,
and searched anew only if the current directory changed. -/
def findPlace (name : List Char) : Work (Except Cause Nat) := do
  let s ← get
  let others := s.found.filter (·.name ≠ name)
  match s.found.find? (·.name = name) with
  | some found =>
    if !found.stale then return .ok found.place
    else
      match searchPlace s.files name (some found.place) s.searched with
      | .ok place =>
        let renewed : Found := { name, place }
        set { s with found := s.found.map fun (f : Found) ↦
          if f.name = name then renewed else f }
        return .ok place
      | .error cause =>
        set { s with found := others }
        return .error cause
  | none =>
    match searchPlace s.files name none s.searched with
    | .ok place =>
      let entry : Found := { name, place }
      set { s with found := others ++ [entry] }
      return .ok place
    | .error cause => return .error cause

/-- The files that a name may stand for, the first of which was found, or why there is none. A name
with a slash is a path. With `usual`, the usual directories are searched. -/
def findProgramFile (usual : Bool) (name : List Char) : Work (Except Cause (List (List Char))) :=
  if name.contains '/' then pure (.ok [name])
  else do
    let s ← get
    let directories := if usual then usualDirectories else s.searched
    let place ←
      if usual then pure (searchPlace s.files name none directories) else findPlace name
    return place.map fun place ↦ (directories.drop place).map (nameIn · name)

/-- How many buckets programs that were found are kept in. -/
def foundBuckets : Nat := 31

/-- The builtin commands that run other commands, or look them up. -/
def otherBuiltins : List String := ["eval", ".", "exec", "command", "type", "hash"]

/-- Whether a name is that of a builtin command. -/
def isBuiltinName (name : String) : Bool :=
  (builtins ++ supervisions).any (·.1 = name) || otherBuiltins.contains name

/-- Shows the programs that were found, finds others, or forgets all. -/
def hashCommand : Builtin := fun arguments ↦ do
  let (letters, operands) ← optionsOf "r" "" arguments
  if letters ≠ [] then
    modify fun s ↦ { s with found := [] }
    pure 0
  else if operands = [] then
    let s ← get
    (inBuckets foundBuckets Found.name s.found).forM fun f ↦
      let path := nameIn ((s.searched[f.place]?).getD []) f.name
      Work.print (path ++ (if f.stale then ['*'] else []) ++ ['\n'])
    pure 0
  else
    let statuses ← operands.mapM find
    pure (statuses.foldl max 0)
where
  /-- Finds a program anew. -/
  find (name : List Char) : Work Nat := do
    let s ← get
    let text := String.ofList name
    if isBuiltinName text || (s.functions.lookup text).isSome then pure 0
    else
      set { s with found := s.found.filter (·.name ≠ name) }
      match ← findProgramFile false name with
      | .ok _ => pure 0
      | .error cause => do
        Work.warn (name ++ ": ".toList ++ startFault cause)
        pure 1

/-- How a name is described. -/
inductive Description where
  /-- By the name, or by the path of the program it stands for. -/
  | short
  /-- In a sentence. -/
  | long
  deriving DecidableEq

/-- Tells what a name stands for: whether it does. -/
def describe (usual : Bool) (description : Description) (name : List Char) : Work Nat := do
  let s ← get
  let text := String.ofList name
  let tell (short : List Char) (long : List Char) : Work Nat := do
    Work.print ((if description = .short then short else name ++ " is ".toList ++ long) ++ ['\n'])
    pure 0
  let missing : Work Nat := do
    if description = .long then Work.print (name ++ ": not found\n".toList)
    pure 127
  if keywords.contains text then tell name "a shell keyword".toList
  else
    match s.aliases.lookup name with
    | some value =>
      tell ("alias ".toList ++ name ++ '=' :: quoteValue value) ("an alias for ".toList ++ value)
    | none =>
      if (s.functions.lookup text).isSome then tell name "a shell function".toList
      else if specialBuiltins.contains text then tell name "a special shell builtin".toList
      else if isBuiltinName text then tell name "a shell builtin".toList
      else
        match (if usual then none else s.found.find? (·.name = name)) with
        | some f =>
          let path := nameIn ((s.searched[f.place]?).getD []) name
          tell path ("a tracked alias for ".toList ++ path)
        | none =>
          match ← findProgramFile usual name with
          | .ok (path :: _) =>
            if (s.files.node (Session.pathOf path)).isOk then tell path path else missing
          | _ => missing

/-- Tells what names stand for. -/
def typeCommand : Builtin := fun names ↦ do
  let statuses ← names.mapM (describe false .long)
  pure (statuses.foldl max 0)

/-- Tells what a name stands for. -/
def describeCommand : Builtin := fun arguments ↦ do
  let (letters, operands) ← optionsOf "pvV" "" arguments
  match letters.filter (· ≠ 'p'), operands with
  | [], _ | _, [] => pure 0
  | ways, name :: _ =>
    describe (letters.contains 'p') (if ways.contains 'V' then .long else .short) name

end KernelForge.Shell
