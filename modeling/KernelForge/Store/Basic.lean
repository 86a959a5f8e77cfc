import KernelForge.Host
import KernelForge.KernelError
import KernelForge.Store.Key

/-!
# The store of artifacts

A store is a directory; whether an artifact is there is seen from its file alone. Source and
artifact are made under a scratch name first and then renamed, so that under its own name a file is
complete.
-/

namespace KernelForge

/-- A directory that holds artifacts. -/
structure Store where
  /-- The directory. -/
  directory : Path

/-- What is known of an artifact before it is made. -/
structure Resolution where
  /-- Its key. -/
  key : StoreKey
  /-- Where its files lie. -/
  paths : ArtifactPaths
  /-- The artifact, if it is there already. -/
  existing : Option Path

namespace Resolution

/-- Whether the artifact is there already. -/
def isHit (r : Resolution) : Bool := r.existing.isSome

end Resolution

namespace Store

/-- Works on the files; a failure concerns a path of the store. -/
def onFile {α : Type} (p : Path) (act : Act Files Cause α) : Act Host KernelError α :=
  (Host.onFiles act).mapError (.storeWrite p)

/-- Opens the store in a directory, which is made if need be. -/
def openAt (directory : Path) : Act Host KernelError Store := do
  onFile directory (Files.createDirectories directory)
  pure ⟨directory⟩

/-- Finds out whether an artifact is there and where its files lie. -/
def resolve {ε : Type} (s : Store) (entry source : String) (kind : ArtifactKind) :
    Act Host ε Resolution := do
  let key := StoreKey.of entry source
  let paths := ArtifactPaths.of s.directory entry key kind
  let hit ← Host.ask (Files.isFile · paths.artifact)
  Host.tell .debug "resolved artifact"
    [("kernel.entry", entry), ("cache.key", key.text), ("cache.hit", toString hit)]
  pure ⟨key, paths, if hit then some paths.artifact else none⟩

/-- Renames a scratch file; if that fails, the scratch file is removed. A name with a zero byte is
an invalid one here. -/
def settle (scratch p : Path) : Act Files Cause Unit := do
  let renamed := if 0 ∈ p.bytes then throw .invalid else Files.rename scratch p
  match ← Act.attempt renamed with
  | .ok () => pure ()
  | .error cause =>
    let _ ← Act.attempt (ζ := Cause) (Files.removeFile scratch)
    throw cause

/-- Writes the prepared source of an artifact. -/
def writeSource (s : Store) (paths : ArtifactPaths) (source : String) : Act Host KernelError Unit :=
  onFile paths.source do
    let scratch ← Files.createScratch ⟨".tmp", ""⟩ s.directory Files.createFile
    Files.write scratch (utf8 source)
    settle scratch paths.source

/-- A scratch directory for the making of `target`, and where in it the artifact is to be left. -/
def openScratch (s : Store) (target : Path) : Act Host KernelError (Path × Path) := do
  let scratch ← onFile s.directory
    (Files.createScratch ⟨".build-", ""⟩ s.directory Files.createDirectory)
  pure (scratch, scratch.join ⟨target.fileName?.getD (utf8 "artifact")⟩)

/-- Runs `build`, which leaves an artifact at `output`, and gives it its name. The scratch directory
is gone afterwards. -/
def publishFrom (scratch output target : Path) (build : Act Host KernelError Unit) :
    Act Host KernelError Unit :=
  Act.andFinally
    (do
      build
      onFile target (Files.rename output target)
      Host.tell .debug "persisted artifact" [("path", target.text)])
    fun h ↦ ((Host.onFiles (Files.removeTree scratch)).runFrom h).2

/-- Runs `build` with a place in a scratch directory, and gives what it leaves there its name. -/
def publish (s : Store) (target : Path) (build : Path → Act Host KernelError Unit) :
    Act Host KernelError Unit := do
  let (scratch, output) ← s.openScratch target
  publishFrom scratch output target (build output)

end Store

end KernelForge
