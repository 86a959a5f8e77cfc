import KernelForge.Digest.Sha256
import KernelForge.Disk.Path

/-!
# Names in the store

An artifact is kept under a name made of its entry and its key; the key is the digest of the entry,
a zero byte and the prepared source.
-/

namespace KernelForge

/-- The key of an artifact. -/
structure StoreKey where
  /-- The hexadecimal digits of the digest. -/
  text : String
  deriving DecidableEq

namespace StoreKey

/-- The bytes whose digest is the key. -/
def framed (entry source : String) : Bytes := utf8 entry ++ 0 :: utf8 source

/-- The key for an entry and a prepared source. -/
def of (entry source : String) : StoreKey := ⟨Bytes.hex (Sha256.digest (framed entry source))⟩

end StoreKey

/-- What a toolchain makes for a target. -/
inductive ArtifactKind where
  /-- A library that a native entry calls. -/
  | sharedLibrary
  /-- A program that a simulator runs. -/
  | executable
  deriving DecidableEq

namespace ArtifactKind

/-- The ending of the file name, if there is one. -/
def extension? : ArtifactKind → Option String
  | sharedLibrary => some "so"
  | executable => none

/-- The name of a kind. -/
def name : ArtifactKind → String
  | sharedLibrary => "shared_library"
  | executable => "executable"

/-- The kind with a name. -/
def ofName? (s : String) : Option ArtifactKind := [sharedLibrary, executable].find? (·.name == s)

end ArtifactKind

/-- Where the files of an artifact lie. -/
structure ArtifactPaths where
  /-- The prepared source. -/
  source : Path
  /-- The artifact itself. -/
  artifact : Path
  /-- The header that declares its functions. -/
  header : Path
  deriving DecidableEq

/-- Where the files of an artifact lie in a directory. -/
def ArtifactPaths.of (directory : Path) (entry : String) (key : StoreKey) (kind : ArtifactKind) :
    ArtifactPaths :=
  let stem := entry ++ "_" ++ key.text
  { source := directory.joinText (stem ++ ".c")
    artifact := directory.joinText (match kind.extension? with
      | some extension => stem ++ "." ++ extension
      | none => stem)
    header := directory.joinText (stem ++ ".h") }

end KernelForge
