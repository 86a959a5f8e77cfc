import KernelForge.Kernel.Signature
import KernelForge.Target.Adapter

/-!
# Kernels

A kernel is made from a source and an adapter. It is prepared once: its artifact is found in the
store or built, and kept in mind. A preparation that failed is not tried again; an artifact that
vanished is prepared again. What changes over the life of a kernel is its `Lifecycle` alone.
-/

namespace KernelForge

/-- The stages of a kernel. -/
inductive Stage where
  /-- Nothing was done yet. -/
  | uninitialized
  /-- The source is prepared. -/
  | sourcePrepared
  /-- The artifact was found in the store. -/
  | artifactCached
  /-- The artifact was built. -/
  | artifactCompiled
  /-- The kernel can be called. -/
  | ready
  /-- The preparation failed. -/
  | failed
  deriving DecidableEq

/-- The name of a stage. -/
def Stage.name : Stage → String
  | uninitialized => "Uninitialized"
  | sourcePrepared => "SourcePrepared"
  | artifactCached => "ArtifactCached"
  | artifactCompiled => "ArtifactCompiled"
  | ready => "Ready"
  | failed => "Failed"

/-- Where a prepared artifact came from. -/
inductive Origin where
  /-- It was there. -/
  | cached
  /-- It was built. -/
  | compiled
  deriving DecidableEq

/-- The name of an origin. -/
def Origin.name : Origin → String
  | cached => "cached"
  | compiled => "compiled"

/-- A prepared artifact. -/
structure Prepared where
  /-- Where it is and what is called in it. -/
  record : ArtifactRecord
  /-- Where it came from. -/
  origin : Origin
  /-- Where its prepared source lies. -/
  source : Path
  deriving DecidableEq

/-- What changes over the life of a kernel. -/
structure Lifecycle where
  /-- The stage. -/
  stage : Stage := .uninitialized
  /-- The prepared artifact. -/
  prepared : Option Prepared := none
  /-- Why the preparation failed. -/
  failure : Option String := none
  deriving DecidableEq

/-- A kernel, apart from what changes over its life. -/
structure Kernel where
  /-- The source and its interface. -/
  source : KernelSource
  /-- The target with what it needs. -/
  adapter : Adapter
  /-- What builds and simulates. -/
  toolchain : Toolchain
  /-- The directory of the store. -/
  store : Path
  /-- The name of the entry. -/
  entry : String
  /-- The symbol of the entry. -/
  symbol : String
  /-- The parameters that are results. -/
  results : List Nat

namespace Kernel

/-- A kernel for a source. -/
def create (source : KernelSource) (adapter : Adapter) (toolchain : Toolchain) (store : Path)
    (requested : Option String) (indices : List Int64) : Act Host KernelError Kernel := do
  let results ← Act.ofExcept (resultIndices source.params.length indices)
  let entry := entryName requested source.symbol
  let symbol := adapter.target.entrySymbol entry
  Host.tell .debug "created kernel handle"
    [("kernel.name", entry), ("kernel.symbol", symbol), ("backend", adapter.target.name)]
  pure ⟨source, adapter, toolchain, store, entry, symbol, results⟩

/-- The source as it is compiled. -/
def preparedSource (k : Kernel) : String := k.adapter.target.prepareSource k.source.text

/-- An action on the life of a kernel and the host. -/
abbrev Step (α : Type) : Type := Act (Lifecycle × Host) KernelError α

/-- Works on the host alone. -/
def onHost {α : Type} (act : Act Host KernelError α) : Step α :=
  Act.within Prod.snd (fun h s ↦ (s.1, h)) act

/-- Changes the life of the kernel alone. -/
def onLife (f : Lifecycle → Lifecycle) : Step Unit := Act.changes fun s ↦ (f s.1, s.2)

/-- The record of the artifact of a kernel, once it is resolved. -/
def record (k : Kernel) (r : Resolution) : ArtifactRecord :=
  ⟨r.key, r.paths.artifact, k.adapter.target, k.symbol⟩

/-- Makes the artifact and publishes it. -/
def make (k : Kernel) (s : Store) (r : Resolution) : Act Host KernelError Unit := do
  s.writeSource r.paths k.preparedSource
  s.publish r.paths.artifact fun output ↦
    k.adapter.build k.toolchain r.paths.source output r.paths.header

/-- Finds the artifact in the store or builds it. -/
def build (k : Kernel) : Step Prepared := do
  onLife fun l ↦ { l with stage := .sourcePrepared }
  let store ← onHost (Store.openAt k.store)
  let r ← onHost (store.resolve k.symbol k.preparedSource k.adapter.target.artifactKind)
  if r.isHit then
    onLife fun l ↦ { l with stage := .artifactCached }
    onHost (Host.tell .debug "using cached kernel"
      [("kernel.name", k.entry), ("path", r.paths.artifact.text)])
    pure ⟨k.record r, .cached, r.paths.source⟩
  else
    onHost (k.make store r)
    onLife fun l ↦ { l with stage := .artifactCompiled }
    onHost (Host.tell .info "compiled kernel" [("kernel.name", k.entry),
      ("backend", k.adapter.target.name), ("path", r.paths.artifact.text)])
    pure ⟨k.record r, .compiled, r.paths.source⟩

/-- Builds, and keeps in mind how that ended. -/
def buildOnce (k : Kernel) : Step Prepared := do
  match ← Act.attempt k.build with
  | .ok prepared =>
    onLife fun l ↦ { l with prepared := some prepared, stage := .ready }
    pure prepared
  | .error error =>
    onHost (Host.tell .debug "preparation failed"
      [("kernel.name", k.entry), ("error", error.message)])
    onLife fun l ↦ { l with failure := some error.message, stage := .failed }
    throw error

/-- Prepares the kernel. One that is prepared is left as it is while its artifact is there; one
whose preparation failed stays so. -/
def prepare (k : Kernel) : Step Prepared := do
  let l ← Act.reads Prod.fst
  match l.failure, l.prepared with
  | some reason, _ => throw (.preparationFailed k.entry reason)
  | none, none => k.buildOnce
  | none, some prepared =>
    if ← Act.reads fun s ↦ s.2.files.isFile prepared.record.path then pure prepared
    else
      onHost (Host.tell .debug "artifact vanished, preparing again"
        [("kernel.name", k.entry), ("path", prepared.record.path.text)])
      onLife fun l ↦ { l with prepared := none, stage := .uninitialized }
      k.buildOnce

/-- The text of a kernel in a report. -/
def debugText (k : Kernel) (l : Lifecycle) : String :=
  "JitKernel \x7b entry: " ++ Text.quoted k.entry ++ ", symbol: " ++ Text.quoted k.symbol ++
    ", backend: " ++ k.adapter.target.label ++ ", state: " ++ l.stage.name ++ " \x7d"

end Kernel

end KernelForge
