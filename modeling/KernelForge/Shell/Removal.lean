import KernelForge.Shell.Options

/-!
# Removing files

The program that removes files takes one operand after the other. A directory is gone through first,
and stays if something in it was kept. The program may ask before each step; what it tells of its
success is held back until it complains or ends.
-/

namespace KernelForge.Shell

/-- How often a removal asks. -/
inductive Asking where
  /-- Not at all. -/
  | never
  /-- Once, before much is removed. -/
  | once
  /-- Before every step. -/
  | always
  deriving DecidableEq

/-- How files are removed. -/
structure RemovalPlan where
  /-- How often it is asked. -/
  asking : Asking := .never
  /-- Whether what is missing does not matter. -/
  lenient : Bool := false
  /-- Whether directories are removed with all that they hold. -/
  deep : Bool := false
  /-- Whether directories that hold nothing are removed. -/
  hollow : Bool := false
  /-- Whether the root is kept. -/
  sparesRoot : Bool := true
  /-- Whether it is told what was removed. -/
  tells : Bool := false

/-- The plan with another way of asking. What is missing matters again to one that asks. -/
def RemovalPlan.withAsking (p : RemovalPlan) (asking : Asking) : RemovalPlan :=
  { p with asking, lenient := p.lenient && asking = .never }

/-- The options of the program. -/
def removalTable : OptionTable where
  letters := "dfiIrRv".toList
  long := [⟨"force", 'f', .nothing⟩, ⟨"interactive", 'a', .joined⟩,
    ⟨"one-file-system", 'o', .nothing⟩, ⟨"no-preserve-root", 'n', .nothing⟩,
    ⟨"preserve-root", 'p', .joined⟩, ⟨"-presume-input-tty", 't', .nothing⟩,
    ⟨"recursive", 'r', .nothing⟩, ⟨"dir", 'd', .nothing⟩, ⟨"verbose", 'v', .nothing⟩,
    ⟨"help", 'h', .nothing⟩, ⟨"version", 'h', .nothing⟩]

/-- The words for ways of asking. -/
def askingWords : List (String × Asking) :=
  [("never", .never), ("no", .never), ("none", .never), ("once", .once), ("always", .always),
    ("yes", .always)]

/-- The way of asking that a word names, which may be cut short. -/
def asking? (word : List Char) : Except EarlyEnd Asking :=
  let refuse (what : String) : Except EarlyEnd Asking :=
    .error (.misuse (what.toList ++ " argument ".toList ++ quotePlain word ++
      " for '--interactive'\nValid arguments are:\n".toList ++
      "  - 'never', 'no', 'none'\n  - 'once'\n  - 'always', 'yes'".toList))
  match askingWords.lookup (String.ofList word) with
  | some asking => .ok asking
  | none =>
    match (askingWords.filter (word.isPrefixOf ·.1.toList)).map Prod.snd with
    | [] => refuse "invalid"
    | asking :: more => if more.all (· = asking) then .ok asking else refuse "ambiguous"

/-- The plan after one more option. -/
def RemovalPlan.change (p : RemovalPlan) (s : GivenOption) : Except EarlyEnd RemovalPlan :=
  match s.letter with
  | 'd' => .ok { p with hollow := true }
  | 'f' => .ok { p with asking := .never, lenient := true }
  | 'i' => .ok (p.withAsking .always)
  | 'I' => .ok (p.withAsking .once)
  | 'a' => ((s.value?.map asking?).getD (.ok .always)).map p.withAsking
  | 'n' =>
    if s.word = "--no-preserve-root".toList then .ok { p with sparesRoot := false }
    else .error (.complaint "you may not abbreviate the --no-preserve-root option".toList)
  | 'p' =>
    match s.value? with
    | none => .ok { p with sparesRoot := true }
    | some word =>
      if word = "all".toList then .ok { p with sparesRoot := true }
      else .error (.complaint
        ("unrecognized --preserve-root argument: ".toList ++ quoteForShell word))
  | 'r' | 'R' => .ok { p with deep := true }
  | 'v' => .ok { p with tells := true }
  | 'h' => .error .quiet
  | _ => .ok p

/-- A removal at work. -/
structure RemovalState where
  /-- What is told but not written yet. -/
  held : List Char := []
  /-- Whether an answer was wanted where nothing could be read. -/
  deaf : Bool := false

/-- Work of a removal. -/
abbrev Removal (α : Type) : Type := StateT RemovalState Work α

namespace Removal

/-- Writes what is held back. -/
def release : Removal Unit := do
  Work.print (← getThe RemovalState).held
  modifyThe RemovalState fun r ↦ { r with held := [] }

/-- Complains, behind what is held back. -/
def complain (program text : List Char) : Removal Unit := do
  release
  complainAs program text

/-- Complains that something cannot be removed. -/
def refuse (program path : List Char) (cause : Cause) : Removal Unit :=
  complain program
    ("cannot remove ".toList ++ quoteForShell path ++ ": ".toList ++ cause.describe.1.toList)

/-- Asks a question; whether the next line of the input says yes. -/
def ask (program question : List Char) : Removal Bool := do
  Work.put 2 (program ++ ": ".toList ++ question ++ "? ".toList)
  match (← getThe Session).pending? 0 with
  | none => do
    modifyThe RemovalState fun r ↦ { r with deaf := true }
    pure false
  | some input => do
    let line := input.takeWhile (· ≠ '\n')
    modifyThe Session fun s ↦ s.skip 0 (line.length + 1)
    pure (line.head?.any fun c ↦ c = 'y' || c = 'Y')

/-- Whether a path ends in a dot or two. -/
def endsInDots (p : Path) : Bool :=
  p.segments.getLast? = some Path.dot || p.segments.getLast? = some Path.dotDot

/-- A path without all but one of the slashes at its end. Two slashes alone stay. -/
def trimSlashes (path : List Char) : List Char :=
  let body := (path.reverse.dropWhile (· = '/')).reverse
  if path.length ≤ body.length + 1 || path = ['/', '/'] then path else body ++ ['/']

/-- What a file is, in words. -/
def kindOf : Node → String
  | .directory _ => "directory"
  | .file _ [] _ => "regular empty file"
  | .file .. | .machine .. => "regular file"
  | .link _ => "symbolic link"
  | .sink => "character special file"

section

variable (program : List Char) (p : RemovalPlan)

/-- Takes a name away; whether it had to be kept. -/
def takeAway (isDirectory : Bool) (path : List Char) : Removal Bool := do
  let target := Session.pathOf path
  let act := if isDirectory then Files.removeDirectory target else Files.removeFile target
  match ← Work.onFiles act with
  | .ok () =>
    let told := (if isDirectory then "removed directory " else "removed ").toList
    if p.tells then modifyThe RemovalState fun r ↦
      { r with held := r.held ++ told ++ quoteForShell path ++ ['\n'] }
    pure false
  | .error cause =>
    if p.lenient && [.missing, .notDirectory, .invalid].contains cause then pure false
    else
      refuse program path cause
      pure true

/-- Whether a step is taken: asks if that is asked for. -/
def agree (question : String) (path : List Char) : Removal Bool :=
  if p.asking = .always then ask program (question.toList ++ ' ' :: quoteForShell path)
  else pure true

/-- Removes what is no directory; whether it had to be kept. -/
def removeLeaf (path : List Char) : Removal Bool := do
  match (← getThe Session).files.ownNode (Session.pathOf path), p.asking with
  | .error cause, .always =>
    refuse program path cause
    pure false
  | .ok node, .always =>
    if ← agree program p ("remove " ++ kindOf node) path then takeAway program p false path
    else pure false
  | _, _ => takeAway program p false path

/-- What speaks against the removal of a directory that is an operand. -/
def objection? (s : Session) (path : List Char) : Option (List Char) :=
  let target := Session.pathOf path
  if endsInDots target then
    some ("refusing to remove '.' or '..' directory: skipping ".toList ++ quoteForShell path)
  else if p.deep && p.sparesRoot && s.files.spot target matches .ok (.place []) then
    some ("it is dangerous to operate recursively on ".toList ++ quoteForShell path ++
      (if path = ['/'] then [] else " (same as '/')".toList) ++ '\n' :: program ++
      ": use --no-preserve-root to override this failsafe".toList)
  else none

/-- Removes what stands at a path, an operand if it is on `top`; whether the directories above are
to be kept without a question. -/
def removeAt : (depth : Nat) → (top : Bool) → (path : List Char) → Removal Bool
  | 0, _, _ => pure true
  | depth + 1, top, path => do
    let s ← getThe Session
    let target := Session.pathOf path
    if !s.files.isOwnDirectory target then removeLeaf program p path
    else
      let names := ((s.files.entries target).toOption.getD []).map Prod.fst
      let isHollow := names = []
      if !p.deep && !(p.hollow && isHollow) then
        refuse program path (if p.hollow then .notEmpty else .isDirectory)
        pure true
      else
        match if top then objection? program p s path else none with
        | some text =>
          complain program text
          pure true
        | none =>
          let question := if isHollow then "remove directory" else "descend into directory"
          if !(← agree program p question path) then pure true
          else if isHollow then takeAway program p true path
          else
            let before := if path.getLast? = some '/' then path else path ++ ['/']
            let kept ← names.mapM fun name ↦ removeAt depth false (before ++ Bytes.chars name)
            if kept.any id then pure true
            else if ← agree program p "remove directory" path then takeAway program p true path
            else pure false

/-- Removes operands, if it is agreed to. -/
def removeAll (operands : List (List Char)) : Removal Unit := do
  let n := operands.length
  let much := p.deep || 3 < n
  let question := "remove ".toList ++ (toString n).toList ++
    (if n = 1 then " argument" else " arguments").toList ++
    (if p.deep then " recursively" else "").toList
  let agreed ← if p.asking = .once && much then ask program question else pure true
  if agreed then
    operands.forM fun operand ↦ do
      let depth := (← getThe Session).files.disk.nodes.length + 2
      let _ ← removeAt program p depth true (trimSlashes operand)

end

end Removal

/-- How many bytes a program reads from a pipe at once. -/
def pipeBlock : Nat := 4096

/-- The session in which a program that was given `before` on its input has read whole blocks of it,
if that is no file. -/
def Session.readingBlocks (s : Session) (before : List Char) : Session :=
  match s.streams.opening? 0 with
  | some (.supply rest) =>
    let taken := before.length - rest.length
    s.skip 0 ((taken + pipeBlock - 1) / pipeBlock * pipeBlock - taken)
  | _ => s

/-- Points out the first file whose name looks like an option. -/
def hintAtNames (program : List Char) (words : List (List Char)) : Work Unit := do
  let f := (← get).files
  let isMeant (w : List Char) := w.head? = some '-' && w ≠ ['-'] &&
    (f.ownNode (Session.pathOf w)).isOk
  match words.find? isMeant with
  | some w => Work.put 2 ("Try '".toList ++ program ++ " ./".toList ++ quoteIfNeeded w ++
      "' to remove the file ".toList ++ quoteForShell w ++ ".\n".toList)
  | none => pure ()

/-- Removes files. -/
def removalProgram (program : List Char) (words : List (List Char)) : Work Unit := do
  Work.ends 0
  let a := readArguments removalTable words
  match a.given.foldlM RemovalPlan.change {}, a.fault with
  | .error ending, _ => endEarly program ending
  | .ok _, some fault =>
    complainAs program fault
    hintAtNames program words
    Work.put 2 ("Try '".toList ++ program ++ " --help' for more information.\n".toList)
  | .ok p, none =>
    if a.operands = [] then
      if !p.lenient then complainOfUse program "missing operand".toList
    else
      let input := ((← get).pending? 0).getD []
      let act : Removal Unit := do
        Removal.removeAll program p a.operands
        if (← getThe RemovalState).deaf then
          Removal.complain program "error closing file: Bad file descriptor".toList
        Removal.release
      let _ ← act.run {}
      modify (·.readingBlocks input)
      checkOutput program

end KernelForge.Shell
