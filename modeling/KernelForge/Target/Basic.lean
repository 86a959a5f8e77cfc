import KernelForge.KernelError
import KernelForge.Store.Key
import KernelForge.Text.Blank

/-!
# Targets

A kernel is made for one of two targets. A target settles the symbol of an entry, what is added to
the source, and what kind of artifact is made.
-/

namespace KernelForge

/-- What a kernel is made for. -/
inductive Target where
  /-- A tensor processor; the kernel is a shared library that is called. -/
  | tpu
  /-- The vector extension of RISC-V; the kernel is a program that is simulated. -/
  | rvv
  deriving DecidableEq

namespace Target

/-- The targets. -/
def all : List Target := [tpu, rvv]

/-- The name of a target. -/
def name : Target → String
  | tpu => "tpu"
  | rvv => "rvv"

/-- The name of a target in a report. -/
def label : Target → String
  | tpu => "Tpu"
  | rvv => "Rvv"

/-- The target that is used where none is chosen. -/
def usual : Target := tpu

/-- The spellings of a target in lower case. -/
def spellings : Target → List String
  | tpu => ["tpu", "sophgo"]
  | rvv => ["rvv", "riscv", "risc-v"]

/-- The target with the spelling `s`, white space around it and ASCII case aside. -/
def parse? (s : String) : Option Target :=
  all.find? fun t ↦ t.spellings.contains (Text.lower (Text.trim s))

/-- The target with the spelling `s`, or an error that tells the name as it was given. -/
def parse (s : String) : Except KernelError Target :=
  match parse? s with
  | some t => .ok t
  | none => .error (.unknownTarget s)

/-- The kind of artifact that is made for a target. -/
def artifactKind : Target → ArtifactKind
  | tpu => .sharedLibrary
  | rvv => .executable

end Target

end KernelForge
