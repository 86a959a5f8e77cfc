import KernelForge.Disk.Path

/-!
# What is asked of the tools

Three requests go to the tools: compile a source, extract its declarations, simulate an executable.
-/

namespace KernelForge

/-- Which compiler a step needs. -/
inductive Driver where
  /-- The C compiler of the host. -/
  | c
  /-- A C compiler for RISC-V. -/
  | riscvC
  /-- A C++ compiler for RISC-V. -/
  | riscvCxx
  deriving DecidableEq

namespace Driver

/-- All drivers. -/
def all : List Driver := [c, riscvC, riscvCxx]

/-- The name of a driver. -/
def name : Driver → String
  | c => "c"
  | riscvC => "riscv_c"
  | riscvCxx => "riscv_cxx"

/-- The driver with a name. -/
def ofName? (s : String) : Option Driver := all.find? (·.name == s)

/-- What a driver is called in a report. -/
def label : Driver → String
  | c => "C compiler"
  | riscvC => "RISC-V C compiler"
  | riscvCxx => "RISC-V C++ compiler"

/-- The program names tried, in order, where none is configured. -/
def candidates : Driver → List String
  | c => ["gcc", "clang"]
  | riscvC => ["riscv64-unknown-linux-gnu-gcc", "riscv64-linux-gnu-gcc", "gcc"]
  | riscvCxx => ["riscv64-unknown-linux-gnu-g++", "riscv64-linux-gnu-g++", "g++"]

end Driver

/-- Flags and search paths of a compilation. -/
structure ToolOptions where
  /-- Flags, passed as they are. -/
  flags : List String := []
  /-- Where headers are searched. -/
  includeDirs : List Path := []
  /-- Where libraries are searched. -/
  libraryDirs : List Path := []
  /-- The libraries to link. -/
  libraries : List String := []
  deriving DecidableEq

/-- Asks for a source to be compiled. -/
structure CompileRequest where
  /-- The compiler that is needed. -/
  driver : Driver
  /-- The source file. -/
  source : Path
  /-- The file to be made. -/
  output : Path
  /-- The architecture, where one is chosen. -/
  arch : Option String
  /-- Flags and search paths. -/
  options : ToolOptions
  deriving DecidableEq

/-- Asks for a header that declares the functions of a source. -/
structure HeaderRequest where
  /-- The compiler that is needed. -/
  driver : Driver
  /-- The source file. -/
  source : Path
  /-- The header to be written. -/
  header : Path
  /-- The architecture, where one is chosen. -/
  arch : Option String
  deriving DecidableEq

/-- Asks for an executable to be run under the simulator. -/
structure SimulationRequest where
  /-- The executable. -/
  executable : Path
  /-- Its arguments. -/
  arguments : List String
  deriving DecidableEq

/-- How a simulation went. -/
structure SimulatorRun where
  /-- The command on one line. -/
  command : String
  /-- The status in words. -/
  status : String
  /-- Whether it ended well. -/
  success : Bool
  /-- What was written to the standard output. -/
  stdout : String
  /-- What was written to the standard error output. -/
  stderr : String
  deriving DecidableEq

end KernelForge
