import KernelForge.Act
import KernelForge.Disk.Walk

/-!
# Working with files

A process sees the tree of files from its current directory. The current directory is known by its
serial number: it may move, and once it is removed, it has no path and holds nothing, but is still
the directory itself. Every operation fails with the cause the file system gives and then changes
nothing.
-/

namespace KernelForge

/-- The tree of files as a process sees it. -/
structure Files where
  /-- The tree. -/
  disk : Disk
  /-- The serial number of the current directory. -/
  here : Nat
  /-- How many scratch names were tried so far. -/
  drawn : Nat := 0

namespace Files

/-- Where the lookup of `p` starts. -/
def start (f : Files) (p : Path) : Except Cause Spot :=
  if 0 ∈ p.bytes then .error .zeroInPath
  else if p.bytes = [] then .error .missing
  else if pathLimit ≤ p.bytes.length then .error .tooLong
  else if p.isAbsolute then .ok (.place [])
  else .ok (f.disk.spotOf f.here)

/-- The spot that `p` leads to. -/
def spot (f : Files) (p : Path) : Except Cause Spot := do
  return (← f.disk.reach linkLimit (← f.start p) p.steps).1

/-- The place that `p` leads to. A removed directory has none. -/
def place (f : Files) (p : Path) : Except Cause Place := do
  match ← f.spot p with
  | .place place => .ok place
  | .removed _ => .error .missing

/-- What `p` leads to. -/
def node (f : Files) (p : Path) : Except Cause Node := do
  match ← f.spot p with
  | .removed serial => .ok (.directory serial)
  | .place place =>
    match f.disk.node? place with
    | some node => .ok node
    | none => .error .missing

/-- Whether `p` leads to a regular file. -/
def isFile (f : Files) (p : Path) : Bool :=
  match f.node p with
  | .ok node => node.isFile
  | .error _ => false

/-- Whether `p` leads to a directory. -/
def isDirectory (f : Files) (p : Path) : Bool :=
  match f.node p with
  | .ok node => node.isDirectory
  | .error _ => false

/-- Whether `p` leads to a regular file that may be run. -/
def isRunnable (f : Files) (p : Path) : Bool :=
  match f.node p with
  | .ok node => node.file?.any fun (_, _, runnable) ↦ runnable
  | .error _ => false

/-- The last step of `p`. -/
def ending (f : Files) (p : Path) : Except Cause Ending := do
  return (← f.disk.ending linkLimit (← f.start p) p).1

/-- What stands under `p` itself, and not what a link at its end leads to. -/
def ownNode (f : Files) (p : Path) : Except Cause Node :=
  match f.ending p with
  | .ok (.entry place last) =>
    if p.isSlashed then f.node p
    else
      match f.disk.node? (place ++ [last]) with
      | some node => .ok node
      | none => .error (if nameLimit < last.length then .tooLong else .missing)
  | .ok _ => f.node p
  | .error cause => .error cause

/-- Whether `p` itself is a directory. -/
def isOwnDirectory (f : Files) (p : Path) : Bool :=
  match f.ownNode p with
  | .ok node => node.isDirectory
  | .error _ => false

/-- Whether `p` itself is a link. -/
def isOwnLink (f : Files) (p : Path) : Bool :=
  match f.ownNode p with
  | .ok (.link _) => true
  | _ => false

/-- The path of the current directory. -/
def current (f : Files) : Except Cause Path :=
  match f.disk.placeOf? f.here with
  | some place => .ok (Path.ofNames place)
  | none => .error .missing

/-- The path `p` seen from the current directory, without dots and repeated slashes. -/
def absolute (f : Files) (p : Path) : Except Cause Path :=
  if p.bytes = [] then .error .emptyPath
  else if p.isAbsolute then .ok (p.absoluteFrom ⟨[]⟩)
  else
    match f.current with
    | .ok directory => .ok (p.absoluteFrom directory)
    | .error cause => .error cause

/-- The content of the file that `p` leads to. -/
def read (f : Files) (p : Path) : Except Cause Bytes := do
  match ← f.node p with
  | .directory _ => .error .isDirectory
  | node => .ok ((node.file?.map fun (_, content, _) ↦ content).getD [])

/-- The text of the file that `p` leads to. -/
def readText (f : Files) (p : Path) : Except Cause String := do
  match Utf8.text? (← f.read p) with
  | some text => .ok text
  | none => .error .notText

/-- The names in the directory that `p` leads to, with what stands under them. -/
def entries (f : Files) (p : Path) : Except Cause (List (Bytes × Node)) := do
  match ← f.spot p with
  | .removed _ => .ok []
  | .place place =>
    match f.disk.node? place with
    | some (.directory _) => .ok (f.disk.below place)
    | _ => .error .notDirectory

/-- Replaces the tree, or fails and leaves it. -/
def edit (change : Files → Except Cause Disk) : Act Files Cause Unit := Act.ofRun fun f ↦
  match change f with
  | .ok disk => (.ok (), { f with disk })
  | .error cause => (.error cause, f)

/-- Puts `change` of the regular file that `p` names in its place; one is made if need be. -/
def fill (p : Path) (change : Nat → Bytes → Bool → Node) : Act Files Cause Unit := edit fun f ↦ do
  let place ← f.disk.writable linkLimit linkLimit (← f.start p) p
  match f.disk.node? place with
  | none =>
    let (serial, disk) := f.disk.fresh
    .ok (disk.put place (change serial [] false))
  | some node =>
    match node.file? with
    | some (serial, content, runnable) => .ok (f.disk.put place (change serial content runnable))
    | none => .ok f.disk

/-- Stores `change` of the present content in the file that `p` names, which is made if need be. -/
def alter (p : Path) (change : Bytes → Bytes) : Act Files Cause Unit :=
  fill p fun serial content runnable ↦ .file serial (change content) runnable

/-- Stores machine code in the file that `p` names, which is made if need be. -/
def install (p : Path) (name : String) : Act Files Cause Unit :=
  fill p fun serial _ _ ↦ .machine serial name

/-- Writes a file. -/
def write (p : Path) (content : Bytes) : Act Files Cause Unit := alter p fun _ ↦ content

/-- Writes at the end of a file. -/
def append (p : Path) (content : Bytes) : Act Files Cause Unit := alter p (· ++ content)

/-- Says whether a file may be run. -/
def setRunnable (p : Path) (runnable : Bool) : Act Files Cause Unit := edit fun f ↦ do
  let place ← f.place p
  match f.disk.node? place with
  | some (.file serial content _) => .ok (f.disk.put place (.file serial content runnable))
  | _ => .ok f.disk

/-- Makes a node under a free name. -/
def make (p : Path) (node : Disk → Node × Disk) : Act Files Cause Unit := edit fun f ↦ do
  match ← f.ending p with
  | .here | .up => .error .taken
  | .entry place last =>
    if nameLimit < last.length then throw .tooLong
    match f.disk.node? (place ++ [last]) with
    | some _ => .error .taken
    | none => .ok ((node f.disk).2.put (place ++ [last]) (node f.disk).1)

/-- Makes a directory. -/
def createDirectory (p : Path) : Act Files Cause Unit :=
  make p fun disk ↦ (.directory disk.fresh.1, disk.fresh.2)

/-- Makes an empty file that was not there. -/
def createFile (p : Path) : Act Files Cause Unit :=
  make p fun disk ↦ (.file disk.fresh.1 [] false, disk.fresh.2)

/-- Makes a link. -/
def createLink (target p : Path) : Act Files Cause Unit :=
  if target.bytes = [] ∨ p.isSlashed then throw .missing
  else if 0 ∈ target.bytes then throw .zeroInPath
  else if pathLimit ≤ target.bytes.length then throw .tooLong
  else make p fun disk ↦ (.link target, disk)

/-- Makes the first directory of a list; where its parent is missing, first the rest of the list. -/
def createAll : List Path → Act Files Cause Unit
  | [] => throw .missing
  | p :: parents =>
    if p.components = [] then pure ()
    else do
      match ← Act.attempt (createDirectory p) with
      | .ok () => pure ()
      | .error .missing =>
        createAll parents
        match ← Act.attempt (createDirectory p) with
        | .ok () => pure ()
        | .error cause => if ← Act.reads (isDirectory · p) then pure () else throw cause
      | .error cause => if ← Act.reads (isDirectory · p) then pure () else throw cause

/-- Makes a directory with all that are above it, unless it is there. -/
def createDirectories (p : Path) : Act Files Cause Unit := createAll p.ancestors

/-- Removes a name that is no directory. -/
def removeFile (p : Path) : Act Files Cause Unit := edit fun f ↦ do
  match ← f.ending p with
  | .here | .up => .error .isDirectory
  | .entry place last =>
    match f.disk.node? (place ++ [last]) with
    | none => .error (if nameLimit < last.length then .tooLong else .missing)
    | some (.directory _) => .error .isDirectory
    | some _ => if p.isSlashed then .error .notDirectory else .ok (f.disk.erase (place ++ [last]))

/-- Removes a directory that holds nothing. -/
def removeDirectory (p : Path) : Act Files Cause Unit := edit fun f ↦ do
  match ← f.ending p with
  | .here => .error .invalid
  | .up => .error .notEmpty
  | .entry place last =>
    match f.disk.node? (place ++ [last]) with
    | none => .error (if nameLimit < last.length then .tooLong else .missing)
    | some (.directory _) =>
      if f.disk.below (place ++ [last]) = [] then .ok (f.disk.eraseTree (place ++ [last]))
      else .error .notEmpty
    | some _ => .error .notDirectory

/-- Removes all that the directory that `p` leads to holds. -/
def clear (p : Path) : Act Files Cause Unit := edit fun f ↦ do
  let place ← f.place p
  match f.disk.node? place with
  | some (.directory serial) =>
    if place = [] then .error .busy
    else .ok ((f.disk.eraseTree place).put place (.directory serial))
  | _ => .error .notDirectory

/-- Removes a directory with all that it holds. A link is removed itself, wherever it leads. -/
def removeTree (p : Path) : Act Files Cause Unit := do
  if ← Act.reads (isOwnLink · p) then removeFile p
  else
    clear p
    removeDirectory p

/-- Removes a name and, if it is a directory, all that it holds. -/
def remove (p : Path) : Act Files Cause Unit := do
  if ← Act.reads (isOwnDirectory · p) then removeTree p else removeFile p

/-- Gives what stands under one name another name, in place of what stood there. -/
def rename (old new : Path) : Act Files Cause Unit := edit fun f ↦ do
  match ← f.ending old, ← f.ending new with
  | .entry place last, .entry place' last' =>
    let source := place ++ [last]
    let target := place' ++ [last']
    match f.disk.node? source with
    | none => .error (if nameLimit < last.length then .tooLong else .missing)
    | some node =>
      if nameLimit < last'.length then throw .tooLong
      if !node.isDirectory && (old.isSlashed || new.isSlashed) then throw .notDirectory
      if source = target then return f.disk
      if source <+: target then throw .invalid
      if target <+: source then throw .notEmpty
      match f.disk.node? target with
      | some (.directory _) =>
        if !node.isDirectory then throw .isDirectory
        if f.disk.below target ≠ [] then throw .notEmpty
        .ok ((f.disk.eraseTree target).move source target)
      | some _ =>
        if node.isDirectory then throw .notDirectory
        .ok ((f.disk.erase target).move source target)
      | none => .ok (f.disk.move source target)
  | _, _ => .error .busy

/-- Makes the directory that `p` leads to the current one. -/
def changeDirectory (p : Path) : Act Files Cause Unit := Act.ofRun fun f ↦
  match f.node p with
  | .ok (.directory serial) => (.ok (), { f with here := serial })
  | .ok _ => (.error .notDirectory, f)
  | .error cause => (.error cause, f)

end Files

end KernelForge
