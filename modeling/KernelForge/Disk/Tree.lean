import KernelForge.Disk.Path

/-!
# The tree of files

A place is the list of names from the root down. The tree tells what stands at a place: a directory,
a file, machine code, a link or a sink. Directories and files have serial numbers, so that one is
known again after it moved; of a directory that was removed, the tree remembers which directory held
it. `Disk.node?` is the one view of a tree; main statements: what it shows after a change
(`node?_put`, `node?_erase`, `node?_eraseTree`).
-/

namespace KernelForge

/-- A place in the tree: the names from the root down. -/
abbrev Place : Type := List Bytes

/-- What stands at a place. -/
inductive Node where
  /-- A directory. -/
  | directory (serial : Nat)
  /-- A regular file. -/
  | file (serial : Nat) (content : Bytes) (runnable : Bool)
  /-- A regular file of machine code, which may be run and is known by the name of what it does. -/
  | machine (serial : Nat) (name : String)
  /-- A link to a path. -/
  | link (target : Path)
  /-- A file that swallows what is written and is always empty. -/
  | sink
  deriving DecidableEq

namespace Node

/-- Whether this is a directory. -/
def isDirectory : Node → Bool
  | directory _ => true
  | _ => false

/-- Whether this is a regular file. -/
def isFile : Node → Bool
  | file .. | machine .. => true
  | _ => false

/-- What stands for the bytes of machine code, which are no text. -/
def machineBytes : Bytes := [0x7F, 0x45, 0x4C, 0x46, 0xFF]

/-- The serial number, the content and whether it may be run, of a regular file. -/
def file? : Node → Option (Nat × Bytes × Bool)
  | file serial content runnable => some (serial, content, runnable)
  | machine serial _ => some (serial, machineBytes, true)
  | _ => none

end Node

/-- A tree of files. The root is a directory and is not listed. -/
structure Disk where
  /-- What stands at each place but the root. -/
  nodes : List (Place × Node)
  /-- The next free serial number. -/
  next : Nat
  /-- For the directories that were removed, by serial number, the directory that held each. -/
  removed : List (Nat × Nat) := []

namespace Disk

/-- The serial number of the root. -/
def rootSerial : Nat := 0

/-- The tree with nothing but the root. -/
def empty : Disk := { nodes := [], next := rootSerial + 1 }

/-- What stands at a place. -/
def node? (d : Disk) (place : Place) : Option Node :=
  if place = [] then some (.directory rootSerial) else d.nodes.lookup place

/-- The serial number of the directory at a place, if one stands there. -/
def serialAt? (d : Disk) (place : Place) : Option Nat :=
  match d.node? place with
  | some (.directory serial) => some serial
  | _ => none

/-- The directories at `place` and below, each with the directory that holds it. -/
def holders (d : Disk) (place : Place) : List (Nat × Nat) :=
  d.nodes.filterMap fun (q, node) ↦
    match node with
    | .directory serial =>
      if place <+: q then (d.serialAt? q.dropLast).map (serial, ·) else none
    | _ => none

/-- The tree with nothing at `place`. -/
def erase (d : Disk) (place : Place) : Disk :=
  { d with nodes := d.nodes.filter fun entry ↦ entry.1 ≠ place }

/-- The tree with `node` at `place`, whatever stood there. -/
def put (d : Disk) (place : Place) (node : Node) : Disk :=
  { d with nodes := (place, node) :: (d.erase place).nodes }

/-- The tree with nothing at `place` or below. The directories there are removed ones from now
on. -/
def eraseTree (d : Disk) (place : Place) : Disk :=
  { d with
    nodes := d.nodes.filter fun entry ↦ ¬ place <+: entry.1
    removed := d.holders place ++ d.removed }

/-- The tree with everything at `old` and below set at `new` instead. Nothing may stand at `new` or
below. -/
def move (d : Disk) (old new : Place) : Disk :=
  { d with nodes := d.nodes.map fun (place, node) ↦
      (if old <+: place then new ++ place.drop old.length else place, node) }

/-- The next serial number, and the tree that has used it. -/
def fresh (d : Disk) : Nat × Disk := (d.next, { d with next := d.next + 1 })

/-- The places right below `place`. -/
def below (d : Disk) (place : Place) : List (Bytes × Node) :=
  d.nodes.filterMap fun (q, node) ↦
    match q.getLast? with
    | some name => if q.dropLast = place then some (name, node) else none
    | none => none

/-- Where the directory with a serial number stands. -/
def placeOf? (d : Disk) (serial : Nat) : Option Place :=
  if serial = rootSerial then some []
  else (d.nodes.find? fun entry ↦ entry.2 = .directory serial).map Prod.fst

/-- The file with a serial number: where it stands, what it holds and whether it may be run. -/
def fileOf? (d : Disk) (serial : Nat) : Option (Place × Bytes × Bool) :=
  d.nodes.findSome? fun (place, node) ↦
    match node.file? with
    | some (n, content, runnable) => if n = serial then some (place, content, runnable) else none
    | none => none

private theorem lookup_filter (nodes : List (Place × Node)) (keep : Place → Bool) (q : Place) :
    (nodes.filter fun entry ↦ keep entry.1).lookup q =
      if keep q then nodes.lookup q else none := by
  induction nodes with
  | nil => simp
  | cons entry rest ih =>
    obtain ⟨place, node⟩ := entry
    by_cases hp : q = place
    · subst hp
      by_cases hk : keep q <;> simp [hk, ih]
    · have hb : (q == place) = false := by simpa using hp
      by_cases hk : keep place <;> simp [hk, ih, List.lookup_cons, hb]

/-- After `erase`, a place shows nothing and every other place what it showed before. -/
theorem node?_erase (d : Disk) {place : Place} (h : place ≠ []) (q : Place) :
    (d.erase place).node? q = if q = place then none else d.node? q := by
  by_cases hq : q = []
  · subst hq
    simp [node?, Ne.symm h]
  · simp only [node?, hq, if_false, erase]
    rw [lookup_filter d.nodes (fun p ↦ decide (p ≠ place)) q]
    by_cases hp : q = place <;> simp [hp]

/-- After `put`, a place shows the new node and every other place what it showed before. -/
theorem node?_put (d : Disk) {place : Place} (h : place ≠ []) (node : Node) (q : Place) :
    (d.put place node).node? q = if q = place then some node else d.node? q := by
  by_cases hq : q = place
  · subst hq
    simp [node?, h, put]
  · rw [if_neg hq, ← show (d.erase place).node? q = d.node? q by rw [node?_erase d h, if_neg hq]]
    have hb : (q == place) = false := by simpa using hq
    simp [node?, put, List.lookup_cons, hb]

/-- After `eraseTree`, nothing shows at the place and below, and the rest is as before. -/
theorem node?_eraseTree (d : Disk) {place : Place} (h : place ≠ []) (q : Place) :
    (d.eraseTree place).node? q = if place <+: q then none else d.node? q := by
  by_cases hq : q = []
  · subst hq
    have hn : ¬ place <+: [] := fun hp ↦ h (List.prefix_nil.1 hp)
    simp [node?, hn]
  · simp only [node?, hq, if_false, eraseTree]
    rw [lookup_filter d.nodes (fun p ↦ decide (¬ place <+: p)) q]
    by_cases hp : place <+: q <;> simp [hp]

end Disk

end KernelForge
