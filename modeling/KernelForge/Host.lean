import KernelForge.DeviceError
import KernelForge.Disk.Scratch
import KernelForge.Event
import KernelForge.Process
import KernelForge.Tool.Request

/-!
# The host

The host is what tools and stores work on: the files, the events told so far, and the rehearsals,
which are stand-ins for tools that follow a plan and keep a log of what was asked of them.
-/

namespace KernelForge

/-- What a rehearsed compilation leaves at the output. -/
inductive RehearsedOutput where
  /-- A file with this content. -/
  | file (content : Bytes)
  /-- Machine code with this name. -/
  | machine (name : String)
  /-- A directory. -/
  | directory
  /-- Nothing. -/
  | nothing

/-- What a rehearsed simulation reports. -/
structure RehearsedRun where
  /-- The status in words. -/
  status : String
  /-- Whether it ended well. -/
  success : Bool
  /-- What was written to the standard output. -/
  stdout : String
  /-- What was written to the standard error output. -/
  stderr : String

/-- The plan of a rehearsal. -/
structure RehearsalPlan where
  /-- The status and the complaint of a compilation that fails. -/
  compileFault : Option (String × String) := none
  /-- The reason of a header extraction that fails. -/
  headerFault : Option String := none
  /-- What a compilation leaves. -/
  output : RehearsedOutput
  /-- What a simulation reports, if there is a simulator. -/
  simulation : Option RehearsedRun := none

/-- What was asked of a rehearsal. -/
inductive RehearsalStep where
  /-- A compilation, with the text of the source at that moment. -/
  | compile (request : CompileRequest) (source : Option String)
  /-- A header extraction. -/
  | header (request : HeaderRequest)
  /-- A simulation. -/
  | simulate (request : SimulationRequest)

/-- A plan and the log of what was asked so far. -/
structure Rehearsal where
  /-- The plan. -/
  plan : RehearsalPlan
  /-- What was asked, the first first. -/
  log : List RehearsalStep := []

/-- What tools and stores work on. -/
structure Host where
  /-- The files. -/
  files : Files
  /-- The events, the newest first. -/
  events : List Event := []
  /-- The rehearsals by name. -/
  rehearsals : List (String × Rehearsal) := []

namespace Host

/-- Tells an event. -/
def tell {ε : Type} (level : Level) (message : String) (fields : List (String × String)) :
    Act Host ε Unit := Act.changes fun h ↦ { h with events := ⟨level, message, fields⟩ :: h.events }

/-- Works on the files. -/
def onFiles {ε α : Type} (act : Act Files ε α) : Act Host ε α :=
  Act.within files (fun files h ↦ { h with files }) act

/-- Works on the files; a failure is told with the path it concerns. -/
def onFile {α : Type} (p : Path) (act : Act Files Cause α) : Act Host DeviceError α :=
  (onFiles act).mapError (.file p)

/-- Asks the files. -/
def ask {ε α : Type} (f : Files → α) : Act Host ε α := Act.reads (f ·.files)

/-- The current directory, or a dot where it is gone. -/
def directory (h : Host) : Path :=
  match h.files.current with
  | .ok p => p
  | .error _ => .ofString "."

/-- The path `p` seen from the current directory. -/
def absolute (p : Path) : Act Host DeviceError Path := do
  match ← ask (Files.absolute · p) with
  | .ok p => pure p
  | .error cause => throw (.file p cause)

/-- The directory in which a session works. -/
def workshop : Path := .ofString "/tmp/session"

/-- The host at the beginning of a session: its programs, a sink, and an empty directory to work
in. -/
def initial : Host :=
  let directories := ["/usr", "/usr/bin", "/dev", "/tmp"].map Path.ofString ++
    [Shell.homeDirectory, workshop]
  let disk := directories.foldl (fun d p ↦
    let (serial, d) := d.fresh
    d.put p.segments (.directory serial)) Disk.empty
  let disk := Shell.Program.all.foldl (fun d program ↦
    let (serial, d) := d.fresh
    d.put ((Path.ofString "/usr/bin").joinText program.name).segments
      (.machine serial program.name)) disk
  let disk := disk.put (Path.ofString "/bin").segments (.link (.ofString "usr/bin"))
  let disk := disk.put (Path.ofString "/dev/null").segments .sink
  let files : Files := { disk, here := Disk.rootSerial }
  { files := ((Files.changeDirectory workshop).runFrom files).2 }

end Host

end KernelForge
