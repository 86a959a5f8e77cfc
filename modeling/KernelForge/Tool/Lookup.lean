import KernelForge.Host
import KernelForge.Text.Find
import KernelForge.Tool.Config

/-!
# Looking for tools

A tool that is configured is used or missed; only where none is configured are the usual names
tried, one after the other, each in every directory of the search path. What was tried in vain is
told.
-/

namespace KernelForge

/-- The simulators with a command line of their own. -/
inductive SimulatorKind where
  /-- Takes the architecture and a proxy kernel. -/
  | spike
  /-- Emulates a processor for user programs. -/
  | qemu
  deriving DecidableEq

namespace SimulatorKind

/-- The name of a kind. -/
def name : SimulatorKind → String
  | spike => "spike"
  | qemu => "qemu"

/-- The program names tried, in order, where no simulator is configured. -/
def candidates : List String := ["spike", "qemu-riscv64"]

/-- The kind of a simulator, by its file name. -/
def detect (p : Path) : SimulatorKind :=
  let name := Text.lower (Utf8.text (p.fileName?.getD []))
  if Text.occursIn "qemu".toList name.toList then qemu else spike

end SimulatorKind

/-- A simulator that was found. -/
structure Simulator where
  /-- Its kind. -/
  kind : SimulatorKind
  /-- Its program file. -/
  path : Path
  deriving DecidableEq

namespace ToolConfig

/-- The pieces of a search path. -/
def searchDirectories (searchPath : Bytes) : List Path :=
  (pieces searchPath).map Path.mk
where
  /-- The pieces between colons. -/
  pieces : Bytes → List Bytes
    | [] => [[]]
    | b :: rest =>
      if b = 0x3A then [] :: pieces rest
      else
        match pieces rest with
        | [] => [[b]]
        | piece :: more => (b :: piece) :: more

/-- A directory of the search path, where a tilde as its first component stands for the home
directory. -/
def expandHome (directory : Path) : Path :=
  match directory.components with
  | .name [0x7E] :: rest => rest.foldl (fun p c ↦ p.join c.path) Shell.homeDirectory
  | _ => directory

/-- The first runnable file called `name` in the directories of the search path. -/
def search (c : ToolConfig) (files : Files) (name : Path) : Option Path :=
  match c.searchPath with
  | none => none
  | some searchPath =>
    ((searchDirectories searchPath).map fun d ↦ (expandHome d).join name).find? files.isRunnable

/-- The program file for a name. A name of several components is a path of its own, seen from the
working directory, and only has to be a file. -/
def resolveExecutable (c : ToolConfig) (files : Files) (name : Path) : Option Path :=
  if 1 < name.components.length then
    let p := if name.isAbsolute then name else c.workingDir.join name
    if files.isFile p then some p else none
  else c.search files name

/-- Looks for the tool `tool`: the override if there is one, else the candidates in order. -/
def locate (c : ToolConfig) (tool : String) (override : Option Path) (candidates : List String) :
    Act Host DeviceError Path := do
  let files ← Host.ask id
  match override with
  | some name =>
    match c.resolveExecutable files name with
    | some p => pure p
    | none => throw (.toolMissing tool [name.text])
  | none =>
    match candidates.findSome? fun name ↦ c.resolveExecutable files (.ofString name) with
    | some p => do
      Host.tell .trace "located executable" [("tool", tool), ("path", p.text)]
      pure p
    | none => throw (.toolMissing tool candidates)

/-- The configured program for a driver. -/
def override (c : ToolConfig) : Driver → Option Path
  | .c | .riscvC => c.cc
  | .riscvCxx => c.cxx

/-- Looks for the compiler of a driver. -/
def locateCompiler (c : ToolConfig) (driver : Driver) : Act Host DeviceError Path :=
  c.locate driver.label (c.override driver) driver.candidates

/-- Looks for the simulator. -/
def locateSimulator (c : ToolConfig) : Act Host DeviceError Simulator := do
  let located := c.locate "simulator" c.simulator SimulatorKind.candidates
  let p ← located.mapError fun _ ↦
    .simulatorMissing (c.simulator.toList.map Path.text ++ SimulatorKind.candidates)
  pure ⟨.detect p, p⟩

/-- Looks for the root of the TPU SDK: the configured one if it is there, else the first bundled
one. -/
def resolveSdkRoot (c : ToolConfig) : Act Host DeviceError Path := do
  let candidates := c.sdkRoot.toList ++ c.sdkSearch
  match candidates.find? (← Host.ask id).isDirectory with
  | some p => pure p
  | none => throw (.toolMissing "TPU SDK (set SOPHGO_TPU_ROOT)" (candidates.map Path.text))

end ToolConfig

end KernelForge
