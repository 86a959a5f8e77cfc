import KernelForge.Disk.Files

/-!
# Scratch files and directories

A scratch name has six characters of its own choice; a name that is taken is not used, and another
one is tried. What failed is told together with the path that was tried.
-/

namespace KernelForge.Files

/-- How a scratch name begins and ends. -/
structure ScratchStyle where
  /-- What stands before the characters of choice. -/
  before : String
  /-- What stands after them. -/
  after : String := ""

/-- The characters of choice of the `n`-th scratch name. -/
def choice (n : Nat) : String :=
  let digits := Nat.toDigits 10 (n % 1000000)
  String.ofList (List.replicate (6 - digits.length) '0' ++ digits)

/-- The `n`-th scratch name. -/
def ScratchStyle.name (style : ScratchStyle) (n : Nat) : String :=
  style.before ++ choice n ++ style.after

/-- Tries scratch names in `base` until `create` takes one, at most `tries` times. -/
def tryNames (style : ScratchStyle) (base : Path) (create : Path → Act Files Cause Unit) :
    (tries : Nat) → Act Files Cause Path
  | 0 => throw (.onFile base .taken)
  | tries + 1 => do
    let n ← Act.reads drawn
    Act.changes fun f ↦ { f with drawn := f.drawn + 1 }
    let p := base.joinText (style.name n)
    match ← Act.attempt (create p) with
    | .ok () => pure p
    | .error .taken => tryNames style base create tries
    | .error cause => throw (.onFile p cause)

/-- Makes something under a scratch name in `directory`, and answers its absolute path. -/
def createScratch (style : ScratchStyle) (directory : Path)
    (create : Path → Act Files Cause Unit) : Act Files Cause Path := do
  let base ← if directory.isAbsolute then pure directory
    else do
      match ← Act.reads current with
      | .ok here => pure (here.join directory)
      | .error cause => throw cause
  tryNames style base create UInt16.size

end KernelForge.Files
