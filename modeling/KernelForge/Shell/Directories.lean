import KernelForge.Shell.Options

/-!
# Making directories

The program that makes directories takes one operand after the other, and with an option makes those
above it, too. A mode is checked and has no effect, since the host may do everything.
-/

namespace KernelForge.Shell

/-! ## Modes -/

/-- Whether a character is an octal digit. -/
def isOctalDigit (c : Char) : Bool := '0' ≤ c && c ≤ '7'

/-- Whether octal digits write a mode. -/
def isOctalMode (digits : List Char) : Bool :=
  digits ≠ [] && digits.all isOctalDigit &&
    digits.foldl (fun n c ↦ 8 * n + (c.toNat - '0'.toNat)) 0 < 0o10000

/-- Whether a text is a list of changes of permissions, behind the classes they are for. -/
def areChanges (bare : Bool) : (most : Nat) → List Char → Bool
  | most + 1, sign :: rest =>
    "=+-".toList.contains sign &&
      (let digits := rest.takeWhile isOctalDigit
      if digits ≠ [] then bare && isOctalMode digits && digits = rest
      else
        let after :=
          if rest.head?.any "ugo".toList.contains then rest.tail
          else rest.dropWhile "rwxXst".toList.contains
        after = [] || areChanges bare most after)
  | _, _ => false

/-- The pieces of a text between commas. -/
def commaParts : List Char → List (List Char)
  | [] => [[]]
  | c :: rest =>
    if c = ',' then [] :: commaParts rest
    else
      match commaParts rest with
      | [] => [[c]]
      | part :: more => (c :: part) :: more

/-- Whether a text is a mode. -/
def isMode (text : List Char) : Bool :=
  isOctalMode text || (commaParts text).all fun part ↦
    let classes := part.takeWhile "ugoa".toList.contains
    areChanges (classes = []) part.length (part.drop classes.length)

/-! ## Directories -/

/-- How directories are made. -/
structure DirectoryPlan where
  /-- Whether those above are made, too. -/
  deep : Bool := false
  /-- Whether it is told what was made. -/
  tells : Bool := false
  /-- The mode that was asked for. -/
  mode? : Option (List Char) := none

/-- The options of the program. -/
def directoryTable : OptionTable where
  letters := "pvZ".toList
  withArgument := ['m']
  long := [⟨"context", 'c', .joined⟩, ⟨"mode", 'm', .always⟩, ⟨"parents", 'p', .nothing⟩,
    ⟨"verbose", 'v', .nothing⟩, ⟨"help", 'h', .nothing⟩, ⟨"version", 'h', .nothing⟩]

/-- The plan after one more option. -/
def DirectoryPlan.change (p : DirectoryPlan) (s : GivenOption) : Except EarlyEnd DirectoryPlan :=
  match s.letter with
  | 'p' => .ok { p with deep := true }
  | 'v' => .ok { p with tells := true }
  | 'm' => .ok { p with mode? := s.value? }
  | 'h' => .error .quiet
  | _ => .ok p

/-- The beginnings of a path that end before a slash that segments follow, the shortest first. -/
def leadingPaths (before : List Char) : List Char → List (List Char)
  | [] => []
  | c :: rest =>
    let ends := c ≠ '/' && rest.head? = some '/' && rest.any (· ≠ '/')
    let here := before ++ [c]
    if ends then here :: leadingPaths here rest else leadingPaths here rest

section

variable (program : List Char) (p : DirectoryPlan)

/-- Complains of a directory that could not be made. -/
def complainOfDirectory (path : List Char) (cause : Cause) : Work Unit :=
  complainAs program ("cannot create directory ".toList ++ quotePlain path ++ ": ".toList ++
    cause.describe.1.toList)

/-- Makes a directory; tells so if asked to. -/
def makeDirectory (path : List Char) : Work (Except Cause Unit) := do
  let made ← Work.onFiles (Files.createDirectory (Session.pathOf path))
  if made.isOk && p.tells then
    Work.print (program ++ ": created directory ".toList ++ quotePlain path ++ ['\n'])
  pure made

/-- Makes the directories of `leading` that are missing; whether that went well. -/
def makeLeading : (leading : List (List Char)) → Work Bool
  | [] => pure true
  | path :: rest => do
    let made ← makeDirectory program p path
    match (← get).files.node (Session.pathOf path), made with
    | .ok (.directory _), _ => makeLeading rest
    | .error .missing, .error cause | .error cause, _ =>
      complainOfDirectory program path cause
      pure false
    | .ok _, _ =>
      complainOfDirectory program path .notDirectory
      pure false

/-- Makes the directory that an operand names, and those above it if that is asked for. -/
def makeOperand (operand : List Char) : Work Unit := do
  let reached ← if p.deep then makeLeading program p (leadingPaths [] operand) else pure true
  if reached then
    match ← makeDirectory program p operand with
    | .ok () => pure ()
    | .error cause =>
      let isThere := (← get).files.isDirectory (Session.pathOf operand)
      if !(p.deep && isThere) then complainOfDirectory program operand cause

end

/-- Makes directories. -/
def directoryProgram (program : List Char) (words : List (List Char)) : Work Unit := do
  Work.ends 0
  let a := readArguments directoryTable words
  a.given.forM fun s ↦ do
    if s.letter = 'c' && s.value?.isSome then
      Work.put 2 (program ++ ": warning: ignoring --context;".toList ++
        " it requires an SELinux/SMACK-enabled kernel\n".toList)
  match a.given.foldlM DirectoryPlan.change {}, a.fault with
  | .error ending, _ => endEarly program ending
  | .ok _, some fault => complainOfUse program fault
  | .ok p, none =>
    if a.operands = [] then complainOfUse program "missing operand".toList
    else
      match p.mode?.filter (!isMode ·) with
      | some mode => complainAs program ("invalid mode ".toList ++ quotePlain mode)
      | none =>
        a.operands.forM (makeOperand program p)
        checkOutput program

end KernelForge.Shell
