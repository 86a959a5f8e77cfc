import KernelForge.Host
import KernelForge.Native.Call
import KernelForge.Native.Library

/-!
# Loading kernel libraries

A library file is read when it is first loaded; what is loaded stays as it is, whatever becomes of
the file. A loader remembers its libraries by path. The system below it knows an image again by the
name it was loaded under, or by its file.
-/

namespace KernelForge

/-- A library in memory. -/
structure Image where
  /-- The paths it was asked for under. -/
  names : List Path
  /-- The serial number of its file. -/
  file : Nat
  /-- Its symbols. -/
  library : Library
  /-- How often its counting kernel ran. -/
  counter : Nat := 0

/-- A record of a call that was made to a recorder. -/
structure RecordedCall where
  /-- The call. -/
  call : NativeCall
  /-- The argument block, if the recorder builds it. -/
  block : Option (List UInt64)

/-- What a recorder does besides recording. -/
inductive RecorderStyle where
  /-- Nothing. -/
  | record
  /-- Builds the argument block. -/
  | block
  /-- Fails. -/
  | fail
  /-- Fills the last tensor. -/
  | fill
  /-- Adds the first two tensors into the third. -/
  | add
  deriving DecidableEq

/-- A stand-in for a native entry that records its calls. -/
structure Recorder where
  /-- The name of the entry. -/
  name : String
  /-- What it does besides recording. -/
  style : RecorderStyle
  /-- The calls, the first first. -/
  log : List RecordedCall := []

/-- What native calls work on: the host, the storages, the images in memory, what each loader
remembers, and the recorders. -/
structure World where
  /-- The host. -/
  host : Host
  /-- The storages of the tensors. -/
  heap : Heap := {}
  /-- The images in memory. -/
  images : List Image := []
  /-- For every loader, the images it remembers, by path. -/
  loaders : List (List (Path × Nat)) := []
  /-- The recorders. -/
  recorders : List Recorder := []

namespace World

/-- Works on the host. -/
def onHost {ε α : Type} (act : Act Host ε α) : Act World ε α :=
  Act.within host (fun host w ↦ { w with host }) act

/-- Works on the storages. -/
def onHeap {ε α : Type} (act : Act Heap ε α) : Act World ε α :=
  Act.within heap (fun heap w ↦ { w with heap }) act

/-- The world with a further loader, and its number. -/
def addLoader (w : World) : Nat × World :=
  (w.loaders.length, { w with loaders := w.loaders ++ [[]] })

/-- The world with a further recorder, and its number. -/
def addRecorder (w : World) (r : Recorder) : Nat × World :=
  (w.recorders.length, { w with recorders := w.recorders ++ [r] })

/-- What the words after a dollar sign stand for: the directory of the running program, the kind of
machine, and where a system keeps its libraries. -/
def placeholders : List (String × String) :=
  [("ORIGIN", "/usr/bin"), ("PLATFORM", "x86_64"), ("LIB", "lib/x86_64-linux-gnu")]

/-- What a text that follows a dollar sign begins with, if that is a placeholder: what it stands
for, and how long it is. It is in braces or ended by something else than a letter, a digit or an
underscore. -/
def placeholder? (text : List Char) : Option (String × Nat) :=
  let (inner, braced) := match text with
    | '\x7b' :: rest => (rest, true)
    | text => (text, false)
  placeholders.findSome? fun (name, value) ↦
    let ended := match inner.drop name.length with
      | [] => !braced
      | c :: _ => if braced then c == '\x7d' else !(c.isAlphanum || c == '_')
    if name.toList.isPrefixOf inner && ended then
      some (value, name.length + if braced then 2 else 0)
    else none

/-- A text with what its placeholders stand for; the first `skipped` characters belong to one. -/
def fillPlaceholders (skipped : Nat) : List Char → List Char
  | [] => []
  | c :: rest =>
    match skipped with
    | skipped + 1 => fillPlaceholders skipped rest
    | 0 =>
      match if c = '$' then placeholder? rest else none with
      | some (value, length) => value.toList ++ fillPlaceholders length rest
      | none => c :: fillPlaceholders 0 rest

/-- The path of the file for a path with placeholders. -/
def filePath (p : Path) : Path := ⟨Bytes.ofChars (fillPlaceholders 0 (Bytes.chars p.bytes))⟩

/-- The libraries of the system, which are found without a path. They have no kernels. -/
def systemLibraries : List Path :=
  ["libc.so.6", "libm.so.6", "libgcc_s.so.1", "libpthread.so.0", "libdl.so.2", "librt.so.1",
    "ld-linux-x86-64.so.2"].map Path.ofString

/-- The file number of an image that has no file in this tree. -/
def noFile : Nat := Disk.rootSerial

/-- Brings the library at a path into memory, and answers the number of its image. An image that was
loaded under this name is taken before the file is looked at, and an image of the same file before
its content is read. A path without a slash is no file of this tree, and the empty path is the
program itself, which has no kernels. -/
def bring (p : Path) (w : World) : Option (Nat × World) :=
  let p := if p.bytes.getLast? = some 0 then Path.mk p.bytes.dropLast else p
  let add (image : Image) : Nat × World :=
    (w.images.length, { w with images := w.images ++ [image] })
  match w.images.findIdx? (·.names.contains p) with
  | some i => some (i, w)
  | none =>
    if p.bytes = [] || systemLibraries.contains p then some (add ⟨[p], noFile, ⟨[]⟩, 0⟩)
    else if !p.bytes.contains Path.slash then none
    else
      match w.host.files.node (filePath p) with
      | .ok (.machine serial name) =>
        match w.images.findIdx? (·.file == serial) with
        | some i => some (i, { w with images := w.images.modify i fun image ↦
            { image with names := image.names ++ [p] } })
        | none => (Library.named? name).map fun library ↦ add ⟨[p, filePath p], serial, library, 0⟩
      | _ => none

/-- What a loader remembers. -/
def remembered (w : World) (loader : Nat) : List (Path × Nat) := w.loaders.getD loader []

/-- The image that a loader remembers for a path; paths of the same components are the same. -/
def known? (w : World) (loader : Nat) (p : Path) : Option Nat :=
  ((w.remembered loader).find? (·.1.components = p.components)).map Prod.snd

/-- The image for a path: the one that the loader remembers, or else one brought into memory now. -/
def load (loader : Nat) (p : Path) : Act World DeviceError Nat := do
  match ← Act.reads (known? · loader p) with
  | some i => pure i
  | none => do
    let i ← Act.ofRun fun w ↦
      match bring p w with
      | some (i, w) => (.ok i, { w with
          loaders := w.loaders.modify loader (· ++ [(p, i)]) })
      | none => (.error (.libraryNotLoaded p), w)
    onHost (Host.tell .debug "loaded kernel library" [("library", p.text)])
    pure i

/-- The kernel that an image has under a symbol. -/
def symbol? (w : World) (image : Nat) (symbol : String) : Option KernelCode :=
  (w.images[image]?).bind (·.library.find? symbol)

/-- Runs a kernel of an image on an argument block. -/
def runKernel (image : Nat) (code : KernelCode) (block : List UInt64) :
    Act World DeviceError Unit :=
  Act.changes fun w ↦
    let counter := ((w.images[image]?).map Image.counter).getD 0
    let (heap, counter) := code.run block counter w.heap
    { w with heap, images := w.images.modify image fun i ↦ { i with counter } }

/-- An action that works on a world and notes what is done with locks. -/
abbrev Traced (α : Type) : Type := Act (World × List LockStep) DeviceError α

/-- Works on the world, without locks. -/
def unlocked {α : Type} (act : Act World DeviceError α) : Traced α :=
  Act.within Prod.fst (fun w s ↦ (w, s.2)) act

/-- Notes what is done with locks. -/
def note (steps : List LockStep) : Traced Unit := Act.changes fun s ↦ (s.1, s.2 ++ steps)

/-- Loads the library of a call, finds the symbol, locks the tensors, builds the argument block and
runs the kernel. The tensors stay locked until the end, where they are unlocked also if there is no
block. -/
def traceCall (loader : Nat) (c : NativeCall) : Traced Unit := do
  let image ← unlocked (load loader c.library)
  match ← Act.reads fun s ↦ symbol? s.1 image c.symbol with
  | none => throw (.symbolMissing c.symbol c.library)
  | some code => do
    let locks ← Act.reads fun s ↦ Locks.ofTensors s.1.heap c.tensors
    note (locks.guards.map .lock)
    Act.andFinally
      (do
        let block ← Act.ofExcept (c.argumentBlock locks.addresses)
        unlocked (onHost (Host.tell .trace "native call" [("kernel.symbol", c.symbol),
          ("kernel.num_slots", toString block.length),
          ("kernel.num_tensors", toString c.tensors.length),
          ("kernel.num_fp", toString c.floats.length),
          ("kernel.num_fixed", toString c.fixed.length)]))
        note [.enter block]
        unlocked (runKernel image code block)
        note [.leave])
      fun s ↦ (s.1, s.2 ++ locks.guards.map .unlock)

/-- Makes a call. -/
def callLibrary (loader : Nat) (c : NativeCall) : Act World DeviceError Unit :=
  Act.within (fun w ↦ (w, [])) (fun s _ ↦ s.1) (traceCall loader c)

end World

end KernelForge
