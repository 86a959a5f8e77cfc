import KernelForge.Disk.Path
import KernelForge.Text.Blank

/-!
# The configuration of the tools

A configuration is a snapshot: it is taken once, from an environment and the working directory, and
later changes of either do not reach it.
-/

namespace KernelForge

/-- The variables of a process environment. -/
structure Environment where
  /-- The variables with their values. -/
  bindings : List (String × Bytes) := []

namespace Environment

/-- The bytes of a variable. -/
def bytes? (e : Environment) (key : String) : Option Bytes := e.bindings.lookup key

/-- The text of a variable without white space around it. A value that is blank or no text counts
as not set. -/
def text? (e : Environment) (key : String) : Option String :=
  (((e.bytes? key).bind Utf8.text?).map Text.trim).filter (· ≠ "")

end Environment

/-- The chip that is used where none is chosen. -/
def defaultChip : String := "bm1690"

/-- The architecture that is used where none is chosen. -/
def defaultRvvArch : String := "rv64gcv"

/-- Where a bundled SDK lies below a directory. -/
def bundledSdk : String := "3rdparty/sophgo_tpu"

/-- The configuration of the tools. -/
structure ToolConfig where
  /-- The configured root of the TPU SDK. -/
  sdkRoot : Option Path := none
  /-- Where a bundled SDK is searched. -/
  sdkSearch : List Path := []
  /-- The chip. -/
  chip : String := defaultChip
  /-- The architecture for RISC-V compilers. -/
  rvvArch : String := defaultRvvArch
  /-- The C compiler, where one is chosen. -/
  cc : Option Path := none
  /-- The C++ compiler, where one is chosen. -/
  cxx : Option Path := none
  /-- The simulator, where one is chosen. -/
  simulator : Option Path := none
  /-- The proxy kernel for simulators that need one. -/
  proxyKernel : Path := .ofString "pk"
  /-- The directories searched for programs, parted by colons. -/
  searchPath : Option Bytes := none
  /-- Where tools run, and what relative overrides are seen from. -/
  workingDir : Path := .ofString "."

namespace ToolConfig

/-- The configuration that an environment and a working directory give. -/
def ofEnvironment (e : Environment) (directory : Path) : ToolConfig where
  sdkRoot := (e.text? "SOPHGO_TPU_ROOT").map Path.ofString
  sdkSearch := directory.ancestors.map (·.joinText bundledSdk)
  chip := ((e.text? "CHIP_ARCH").or (e.text? "CHIP")).getD defaultChip
  rvvArch := (e.text? "TILEJIT_RVV_ARCH").getD defaultRvvArch
  cc := (e.text? "CC").map Path.ofString
  cxx := (e.text? "CXX").map Path.ofString
  simulator := (e.text? "TILEJIT_RVV_SIM").map Path.ofString
  proxyKernel := .ofString ((e.text? "TILEJIT_RISCV_PK").getD "pk")
  searchPath := e.bytes? "PATH"
  workingDir := directory

end ToolConfig

/-- The name of the store below the working directory, where no other place is chosen. -/
def defaultStoreName : String := ".tilejit_cache"

/-- Where the store lies: at the place that the environment gives, else below the working
directory. -/
def storeDirectory (e : Environment) (directory : Path) : Path :=
  match (e.bytes? "TILEJIT_CACHE_DIR").filter (· ≠ []) with
  | some bytes => ⟨bytes⟩
  | none => directory.joinText defaultStoreName

end KernelForge
