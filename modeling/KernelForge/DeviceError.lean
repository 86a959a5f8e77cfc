import KernelForge.DType
import KernelForge.Disk.Cause

/-!
# What can go wrong at the device

Tools, files, kernel libraries, argument blocks and host tensors each have their own failures. A
failure is a cause; its text is made in one place (`DeviceError.message`).
-/

namespace KernelForge

/-- Why a step at the device failed. -/
inductive DeviceError where
  /-- No program or directory was found under the names tried. -/
  | toolMissing (tool : String) (searched : List String)
  /-- The process did not start. -/
  | notStarted (command : String) (cause : Cause)
  /-- The compiler ended badly. -/
  | compileFailed (command status stderr : String)
  /-- No declarations could be had from the source. -/
  | headerFailed (command reason : String)
  /-- No simulator was found under the names tried. -/
  | simulatorMissing (searched : List String)
  /-- A file operation failed. -/
  | file (path : Path) (cause : Cause)
  /-- The kernel library could not be loaded. -/
  | libraryNotLoaded (path : Path)
  /-- The kernel library lacks the symbol. -/
  | symbolMissing (symbol : String) (path : Path)
  /-- The positions do not tile the argument block. -/
  | layout (position : Int64) (slots : Nat)
  /-- No native entry has this name. -/
  | entryMissing (name : String)
  /-- The size of the tensor does not fit 64 bits. -/
  | tensorSize (shape : List UInt64) (dtype : DType)
  /-- The tensor is larger than any memory block. -/
  | beyondMemory (bytes : Nat)
  /-- The operation cannot treat the element type. -/
  | unsupported (dtype : DType) (operation : String)
  /-- The elements have another type. -/
  | dtypeMismatch (expected actual : DType)
  /-- The shape holds another number of elements. -/
  | elementCount (expected actual : Nat)
  deriving DecidableEq

/-- The text of a list of dimensions. -/
def shapeText (shape : List UInt64) : String := Text.bracketed (shape.map fun d ↦ toString d.toNat)

/-- The text of a failure. -/
def DeviceError.message : DeviceError → String
  | toolMissing tool searched =>
    tool ++ " not found (searched: " ++ String.intercalate ", " searched ++ ")"
  | notStarted command cause => "failed to run `" ++ command ++ "`: " ++ cause.message
  | compileFailed command status stderr =>
    "compilation failed (" ++ status ++ "): `" ++ command ++ "`\n" ++ stderr
  | headerFailed command reason => "header extraction failed: `" ++ command ++ "`: " ++ reason
  | simulatorMissing searched =>
    "no instruction-set simulator found (searched: " ++ String.intercalate ", " searched ++ ")"
  | file path cause => "I/O error on " ++ path.text ++ ": " ++ cause.message
  | libraryNotLoaded path => "failed to load " ++ path.text
  | symbolMissing symbol path => "symbol '" ++ symbol ++ "' not found in " ++ path.text
  | layout position slots =>
    "argument position " ++ toString position.toInt ++ " does not fit a " ++ toString slots ++
      "-slot argument block"
  | entryMissing name => "no native execution entry registered under '" ++ name ++ "'"
  | tensorSize shape dtype =>
    "tensor of shape " ++ shapeText shape ++ " and dtype " ++ dtype.name ++
      " overflows addressable memory"
  | beyondMemory bytes => "a block of " ++ toString bytes ++ " bytes exceeds addressable memory"
  | unsupported dtype operation => operation ++ " does not support dtype " ++ dtype.name
  | dtypeMismatch expected actual =>
    "dtype mismatch: expected " ++ expected.name ++ ", got " ++ actual.name
  | elementCount expected actual =>
    "element count mismatch: shape holds " ++ toString expected ++ " elements, got " ++
      toString actual

end KernelForge
