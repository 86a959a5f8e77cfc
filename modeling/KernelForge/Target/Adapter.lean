import KernelForge.Native.Entry
import KernelForge.Store.Basic
import KernelForge.Target.Source
import KernelForge.Tool.Toolchain

/-!
# Building and executing for a target

For a tensor processor the build links against the SDK and the execution is a native call. For the
vector extension the build tries to leave a header, and the execution runs a simulator; neither a
missing header nor a simulator that fails is an error.
-/

namespace KernelForge

/-- A prepared artifact: where it is and what is called in it. -/
structure ArtifactRecord where
  /-- Its key. -/
  key : StoreKey
  /-- Where it lies. -/
  path : Path
  /-- What it was made for. -/
  target : Target
  /-- The symbol it exports. -/
  symbol : String
  deriving DecidableEq

/-- How an execution ended. -/
inductive Outcome where
  /-- As it should. -/
  | completed
  /-- The simulation failed, for this reason. -/
  | degraded (reason : String)
  deriving DecidableEq

/-- Whether an execution ended as it should. -/
def Outcome.isCompleted : Outcome → Bool
  | completed => true
  | degraded _ => false

/-- A target with what it needs. -/
inductive Adapter where
  /-- A tensor processor, reached through a native entry. -/
  | tpu (config : ToolConfig) (native : NativeEntry)
  /-- The vector extension of RISC-V. -/
  | rvv (config : ToolConfig)

/-- The flags of a compilation for a tensor processor. -/
def tpuFlags : List String := ["-O2", "-shared", "-fPIC", "-Wno-psabi"]

/-- The chips whose library is the emulator of the newer runtime. -/
def emulatedChips : List String := ["bm1690", "sg2262"]

/-- The flags of a compilation for the vector extension. -/
def rvvFlags : List String := ["-mabi=lp64d", "-O0"]

/-- The options that link against the SDK for the configured chip. -/
def ToolConfig.linkOptions (c : ToolConfig) : Act Host DeviceError ToolOptions := do
  let runtime := (← c.resolveSdkRoot).joinText "runtime"
  let chip := runtime.joinText c.chip
  let (library, directory) :=
    if emulatedChips.contains c.chip then
      ("tpuv7_emulator", chip.joinText "tpuv7-runtime-emulator/lib")
    else ("cmodel_firmware", chip.joinText "lib")
  pure {
    flags := tpuFlags
    includeDirs := [runtime.joinText "customize/include", runtime.joinText "kernel",
      chip.joinText "TPU1686/kernel/include"]
    libraryDirs := [directory]
    libraries := [library] }

namespace Adapter

/-- What the adapter makes kernels for. -/
def target : Adapter → Target
  | tpu .. => .tpu
  | rvv _ => .rvv

/-- Tries to leave a header. -/
def tryHeader (t : Toolchain) (request : HeaderRequest) : Act Host DeviceError Unit := do
  match ← Act.attempt (t.extractHeader request) with
  | .ok count =>
    Host.tell .debug "wrote kernel header"
      [("header", request.header.text), ("declarations", toString count)]
  | .error error =>
    Host.tell .warn "header extraction failed"
      [("error", error.message), ("source", request.source.text)]

/-- Builds the artifact of a prepared source. -/
def buildAt (a : Adapter) (t : Toolchain) (source output header : Path) :
    Act Host DeviceError Unit :=
  match a with
  | tpu config _ => do
    let options ← config.linkOptions
    Host.tell .debug "compiling TPU kernel" [("tpu.chip", config.chip), ("source", source.text)]
    t.compile ⟨.c, source, output, none, options⟩
  | rvv config => do
    tryHeader t ⟨.riscvC, source, header, some config.rvvArch⟩
    t.compile ⟨.riscvCxx, source, output, some config.rvvArch, { flags := rvvFlags }⟩

/-- Builds the artifact of a prepared source. -/
def build (a : Adapter) (t : Toolchain) (source output header : Path) : Act Host KernelError Unit :=
  (a.buildAt t source output header).mapError .device

/-- Runs an executable under the simulator. -/
def simulate (t : Toolchain) (executable : Path) : Act Host KernelError Outcome := do
  match ← Act.attempt (t.simulate ⟨executable, []⟩) with
  | .ok run =>
    if run.success then do
      Host.tell .debug "simulation finished" [("command", run.command), ("stdout", run.stdout)]
      pure .completed
    else do
      let reason :=
        "`" ++ run.command ++ "` exited with " ++ run.status ++ ": " ++ Text.trim run.stderr
      Host.tell .warn "simulation failed" [("reason", reason)]
      pure (.degraded reason)
  | .error error => do
    Host.tell .warn "simulation unavailable" [("error", error.message)]
    pure (.degraded error.message)

/-- Executes a prepared artifact with arguments. -/
def execute (a : Adapter) (t : Toolchain) (record : ArtifactRecord) (g : ArgumentGroups) :
    Act World KernelError Outcome :=
  match a with
  | tpu _ native => do
    (native.execute (g.call record.path record.symbol)).mapError .device
    pure .completed
  | rvv _ => World.onHost do
    Host.tell .debug "arguments are not forwarded to the simulator"
      [("kernel.symbol", record.symbol), ("kernel.num_args", toString g.size)]
    simulate t record.path

end Adapter

end KernelForge
