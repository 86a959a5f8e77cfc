import KernelForge.Host
import KernelForge.Tool.Header
import KernelForge.Tool.Lookup

/-!
# Toolchains

A toolchain compiles, extracts declarations and simulates. The process toolchain runs the programs
that a configuration names; the rehearsed one follows a plan and keeps a log. Nothing else is asked
of a toolchain, so that another one may take its place.
-/

namespace KernelForge

/-- What compiles, extracts declarations and simulates. -/
structure Toolchain where
  /-- Compiles a source. -/
  compile : CompileRequest → Act Host DeviceError Unit
  /-- Writes a header for a source, and answers how many declarations it has. -/
  extractHeader : HeaderRequest → Act Host DeviceError Nat
  /-- Runs an executable under the simulator. -/
  simulate : SimulationRequest → Act Host DeviceError SimulatorRun

/-- What runs commands. -/
abbrev Runner : Type := CommandLine → Act Files Cause Completed

namespace ToolConfig

/-- The argument that chooses an architecture. -/
def archArgument (arch : Option String) : List String := arch.toList.map ("-march=" ++ ·)

/-- The command by which a compiler compiles a source. -/
def compileLine (c : ToolConfig) (r : CompileRequest) (compiler source : Path) : CommandLine :=
  let before := archArgument r.arch ++ r.options.flags
  let after := r.options.includeDirs.map ("-I" ++ ·.text) ++
    r.options.libraryDirs.map ("-L" ++ ·.text) ++ r.options.libraries.map ("-l" ++ ·)
  { program := compiler
    arguments := before.map utf8 ++ [source.bytes, utf8 "-o", r.output.bytes] ++ after.map utf8
    directory := c.workingDir }

/-- The command that compiles a source. -/
def compileCommand (c : ToolConfig) (r : CompileRequest) : Act Host DeviceError CommandLine := do
  let compiler ← c.locateCompiler r.driver
  let source ← Host.absolute r.source
  pure (c.compileLine r compiler source)

/-- Runs a command; one that does not start is an error. -/
def start (run : Runner) (command : CommandLine) : Act Host DeviceError Completed :=
  (Host.onFiles (run command)).mapError (.notStarted command.render)

/-- Has the configured compiler compile a source. -/
def compileWith (c : ToolConfig) (run : Runner) (r : CompileRequest) :
    Act Host DeviceError Unit := do
  let command ← c.compileCommand r
  Host.tell .debug "compiling" [("toolchain.command", command.render)]
  let done ← start run command
  if !done.success then
    throw (.compileFailed command.render done.statusText (Utf8.text done.stderr))
  Host.tell .debug "compiled" [("toolchain.output", r.output.text)]

/-- How the file for a listing is called. -/
def listingStyle : Files.ScratchStyle := ⟨".aux-", ".info"⟩

/-- The directory of a header. -/
def headerDirectory (header : Path) : Path :=
  match header.parent? with
  | some p => if p.bytes = [] then .ofString "." else p
  | none => .ofString "."

/-- The listing of declarations that the compiler left in a file. A compiler that complained may
still have left one; only an empty one is of no use. -/
def listing (command : CommandLine) (done : Completed) (file : Path) :
    Act Host DeviceError String := do
  match ← Host.ask (Files.readText · file) with
  | .error cause =>
    throw (.headerFailed command.render
      ("cannot read declaration listing " ++ file.text ++ ": " ++ cause.message))
  | .ok "" =>
    let reason := if done.success then "compiler produced no declaration listing"
      else done.statusText ++ ": " ++ Text.trim (Utf8.text done.stderr)
    throw (.headerFailed command.render reason)
  | .ok text => pure text

/-- The command by which a compiler leaves a listing of declarations in `file`. -/
def listingLine (c : ToolConfig) (r : HeaderRequest) (compiler source file : Path) : CommandLine :=
  let arguments := (archArgument r.arch ++ ["-fsyntax-only", "-aux-info"]).map utf8
  { program := compiler, arguments := arguments ++ [file.bytes, source.bytes]
    directory := c.workingDir }

/-- Writes the header for a source from the listing that the compiler leaves in `file`. -/
def headerFromListing (c : ToolConfig) (run : Runner) (r : HeaderRequest)
    (compiler source file : Path) : Act Host DeviceError Nat := do
  let command := c.listingLine r compiler source file
  Host.tell .debug "extracting declarations" [("toolchain.command", command.render)]
  let done ← start run command
  let text ← listing command done file
  let decls := Header.declarations text source.text
  if decls.isEmpty then
    Host.tell .warn "no declarations found for source file" [("source", source.text)]
  let guard := Header.guard (Utf8.text (r.header.fileName?.getD []))
  Host.onFile r.header (Files.write r.header (utf8 (Header.render guard decls)))
  pure decls.length

/-- Writes the header for a source. The listing it is made from is gone afterwards. -/
def extractHeaderWith (c : ToolConfig) (run : Runner) (r : HeaderRequest) :
    Act Host DeviceError Nat := do
  let compiler ← c.locateCompiler r.driver
  let source ← Host.absolute r.source
  let directory := headerDirectory r.header
  let file ← Host.onFile directory (Files.createScratch listingStyle directory Files.createFile)
  (c.headerFromListing run r compiler source file).andFinally fun h ↦
    ((Host.onFiles (Files.removeFile file)).runFrom h).2

/-- The arguments of a simulator before the executable. -/
def simulatorArguments (c : ToolConfig) : SimulatorKind → List Bytes
  | .spike => [utf8 ("--isa=" ++ c.rvvArch), c.proxyKernel.bytes]
  | .qemu => [utf8 "-cpu", utf8 "rv64,v=true"]

/-- Has an executable run under the configured simulator. -/
def simulateWith (c : ToolConfig) (run : Runner) (r : SimulationRequest) :
    Act Host DeviceError SimulatorRun := do
  let simulator ← c.locateSimulator
  let executable ← Host.absolute r.executable
  let command : CommandLine :=
    { program := simulator.path
      arguments := c.simulatorArguments simulator.kind ++ executable.bytes :: r.arguments.map utf8
      directory := c.workingDir }
  Host.tell .debug "simulating" [("toolchain.command", command.render)]
  let done ← start run command
  pure ⟨command.render, done.statusText, done.success, Utf8.text done.stdout, Utf8.text done.stderr⟩

/-- The toolchain that has the configured programs run. -/
def toolchainWith (c : ToolConfig) (run : Runner) : Toolchain :=
  ⟨c.compileWith run, c.extractHeaderWith run, c.simulateWith run⟩

/-- The toolchain that runs the configured programs. -/
def toolchain (c : ToolConfig) : Toolchain := c.toolchainWith Process.run

/-- Compiles a source with the configured compiler. -/
def compile (c : ToolConfig) (r : CompileRequest) : Act Host DeviceError Unit :=
  c.toolchain.compile r

/-- Writes the header for a source with the configured compiler. -/
def extractHeader (c : ToolConfig) (r : HeaderRequest) : Act Host DeviceError Nat :=
  c.toolchain.extractHeader r

/-- Runs an executable under the configured simulator. -/
def simulate (c : ToolConfig) (r : SimulationRequest) : Act Host DeviceError SimulatorRun :=
  c.toolchain.simulate r

end ToolConfig

namespace Rehearsal

/-- Logs a step of the rehearsal called `name`, and answers its plan. -/
def follow (name : String) (step : RehearsalStep) : Act Host DeviceError RehearsalPlan :=
  Act.ofRun fun h ↦
    match h.rehearsals.lookup name with
    | some r =>
      let r' := { r with log := r.log ++ [step] }
      (.ok r.plan, { h with rehearsals := h.rehearsals.map fun (n, q) ↦
        (n, if n = name then r' else q) })
    | none => (.error (.toolMissing name []), h)

/-- Compiles as the plan says. -/
def compile (name : String) (r : CompileRequest) : Act Host DeviceError Unit := do
  let source ← Host.ask fun f ↦ (f.readText r.source).toOption
  let plan ← follow name (.compile r source)
  match plan.compileFault with
  | some (status, stderr) =>
    throw (.compileFailed ("mock-cc " ++ r.source.text) status stderr)
  | none =>
    match plan.output with
    | .file content => Host.onFile r.output (Files.write r.output content)
    | .machine name => Host.onFile r.output (Files.install r.output name)
    | .directory => Host.onFile r.output (Files.createDirectory r.output)
    | .nothing => pure ()

/-- Writes a header as the plan says. -/
def extractHeader (name : String) (r : HeaderRequest) : Act Host DeviceError Nat := do
  let plan ← follow name (.header r)
  match plan.headerFault with
  | some reason => throw (.headerFailed "mock-cc -aux-info" reason)
  | none => do
    Host.onFile r.header (Files.write r.header (utf8 "/* mock header */\n"))
    pure 1

/-- Simulates as the plan says. -/
def simulate (name : String) (r : SimulationRequest) : Act Host DeviceError SimulatorRun := do
  let plan ← follow name (.simulate r)
  match plan.simulation with
  | some run =>
    pure ⟨"mock-sim " ++ r.executable.text, run.status, run.success, run.stdout, run.stderr⟩
  | none => throw (.simulatorMissing ["spike"])

/-- The toolchain that follows the plan of the rehearsal called `name`. -/
def toolchain (name : String) : Toolchain := ⟨compile name, extractHeader name, simulate name⟩

/-- Gives a rehearsal a new plan; one that is there keeps its log. -/
def setPlan (name : String) (plan : RehearsalPlan) (h : Host) : Host :=
  match h.rehearsals.lookup name with
  | some _ => { h with rehearsals := h.rehearsals.map fun (n, r) ↦
      (n, if n = name then { r with plan } else r) }
  | none => { h with rehearsals := h.rehearsals ++ [(name, { plan })] }

/-- The log of a rehearsal, which is empty afterwards. -/
def takeLog (name : String) (h : Host) : Option (List RehearsalStep) × Host :=
  ((h.rehearsals.lookup name).map log, { h with rehearsals := h.rehearsals.map fun (n, r) ↦
    (n, if n = name then { r with log := [] } else r) })

end Rehearsal

end KernelForge
