import KernelForge.Kernel.Basic

/-!
# How a kernel is made

The options settle the target, the results, the name, the store and the tools. What is not chosen is
taken from the environment, from the usual target and from the registry.
-/

namespace KernelForge

/-- How a kernel is made. -/
structure KernelOptions where
  /-- What the kernel is made for. -/
  target : Target := .usual
  /-- The result indices; negative ones count from the end. -/
  indices : List Int64 := []
  /-- The requested name of the entry. -/
  entry : Option String := none
  /-- The directory of the store. -/
  store : Path
  /-- The configuration of the tools. -/
  config : ToolConfig
  /-- What builds and simulates, in place of the configured programs. -/
  toolchain : Option Toolchain := none
  /-- What takes native calls, in place of the registered entry. -/
  native : Option NativeEntry := none

namespace KernelOptions

/-- The options where nothing is chosen. -/
def ofEnvironment (e : Environment) (directory : Path) : KernelOptions :=
  { store := storeDirectory e directory, config := .ofEnvironment e directory }

/-- The adapter for a target; without a native entry of its own it takes the registered one. -/
def adapter (registry : Registry) (target : Target) (config : ToolConfig)
    (native : Option NativeEntry) : Except DeviceError Adapter :=
  match target, native with
  | .tpu, some entry => .ok (.tpu config entry)
  | .tpu, none => (registry.find loadingEntryName).map (.tpu config)
  | .rvv, _ => .ok (.rvv config)

end KernelOptions

/-- A kernel for a source. Nothing is built yet. -/
def Kernel.forge (registry : Registry) (source : KernelSource) (o : KernelOptions) :
    Act Host KernelError Kernel := do
  let adapter ← Act.ofExcept
    ((KernelOptions.adapter registry o.target o.config o.native).mapError .device)
  create source adapter (o.toolchain.getD o.config.toolchain) o.store o.entry o.indices

end KernelForge
