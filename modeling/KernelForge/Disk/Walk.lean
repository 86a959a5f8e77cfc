import KernelForge.Disk.Cause
import KernelForge.Disk.Tree

/-!
# Finding a place

A lookup goes from a directory through the steps of a path and follows the links it meets, at most
forty of them. It may start in a directory that was removed: that one holds nothing, and the way up
leads to the directory that held it. A file that is to be written is looked up without its last
step, since it need not be there yet.
-/

namespace KernelForge

/-- The most links that one lookup follows. -/
def linkLimit : Nat := 40

/-- The most bytes of a name. -/
def nameLimit : Nat := 255

/-- The least number of bytes that is too many for a path. -/
def pathLimit : Nat := 4096

/-- Where a lookup stands. -/
inductive Spot where
  /-- At a place of the tree. -/
  | place (place : Place)
  /-- In the directory with this serial number, which was removed. -/
  | removed (serial : Nat)
  deriving DecidableEq

/-- What the last step of a path is. -/
inductive Ending where
  /-- The directory itself. -/
  | here
  /-- The directory above. -/
  | up
  /-- A name in the directory at a place. -/
  | entry (place : Place) (name : Bytes)
  deriving DecidableEq

namespace Disk

/-- The place reached from `here` through `todo`, when at most `links` links may be followed, and
how many more may be. -/
def walk (d : Disk) (links : Nat) (here : Place) (todo : List Bytes) : Except Cause (Place × Nat) :=
  match todo with
  | [] => .ok (here, links)
  | segment :: rest =>
    match d.node? here with
    | some (.directory _) =>
      if segment = Path.dot then d.walk links here rest
      else if segment = Path.dotDot then d.walk links here.dropLast rest
      else if nameLimit < segment.length then .error .tooLong
      else
        match d.node? (here ++ [segment]) with
        | none => .error .missing
        | some (.link target) =>
          match links with
          | 0 => .error .tooManyLinks
          | links + 1 =>
            d.walk links (if target.isAbsolute then [] else here) (target.steps ++ rest)
        | some _ => d.walk links (here ++ [segment]) rest
    | _ => .error .notDirectory
termination_by (links, todo.length)

/-- The directory with a serial number as the start of a lookup. -/
def spotOf (d : Disk) (serial : Nat) : Spot :=
  match d.placeOf? serial with
  | some place => .place place
  | none => .removed serial

/-- The way out of a removed directory: where it ends, and the steps that are left. -/
def leave (d : Disk) (serial : Nat) : List Bytes → Except Cause (Spot × List Bytes)
  | [] => .ok (.removed serial, [])
  | segment :: rest =>
    if segment = Path.dot then d.leave serial rest
    else if segment = Path.dotDot then
      match d.removed.lookup serial with
      | none => .error .missing
      | some above =>
        match d.spotOf above with
        | .place place => .ok (.place place, rest)
        | .removed serial => d.leave serial rest
    else .error .missing

/-- The spot reached from `start` through `todo`, when at most `links` links may be followed, and
how many more may be. -/
def reach (d : Disk) (links : Nat) (start : Spot) (todo : List Bytes) :
    Except Cause (Spot × Nat) := do
  let (here, rest) ← match start with
    | .place here => .ok (.place here, todo)
    | .removed serial => d.leave serial todo
  match here with
  | .removed _ => .ok (here, links)
  | .place here => do
    let (place, links) ← d.walk links here rest
    .ok (.place place, links)

/-- The last step of `p`, when all others lead to a directory, and how many more links may be
followed. The root is its own dot. -/
def ending (d : Disk) (links : Nat) (start : Spot) (p : Path) : Except Cause (Ending × Nat) := do
  let (spot, links) ← d.reach links start p.segments.dropLast
  let last := p.segments.getLast?.getD Path.dot
  match spot with
  | .place place =>
    if (d.serialAt? place).isNone then .error .notDirectory
    else if last = Path.dot then .ok (.here, links)
    else if last = Path.dotDot then .ok (.up, links)
    else .ok (.entry place last, links)
  | .removed _ =>
    if last = Path.dot then .ok (.here, links)
    else if last = Path.dotDot then .ok (.up, links)
    else .error .missing

/-- The place of the file that `p` names for writing. A link at the end is followed, even one that
leads nowhere yet; `turns` bounds how many of these there are. -/
def writable (d : Disk) (turns links : Nat) (start : Spot) (p : Path) : Except Cause Place :=
  match d.ending links start p with
  | .error cause => .error cause
  | .ok (.here, _) | .ok (.up, _) => .error .isDirectory
  | .ok (.entry place last, links) =>
    if p.isSlashed then .error .isDirectory
    else if nameLimit < last.length then .error .tooLong
    else
      match d.node? (place ++ [last]) with
      | some (.directory _) => .error .isDirectory
      | some (.link target) =>
        match turns, links with
        | turns + 1, links + 1 =>
          d.writable turns links (.place (if target.isAbsolute then [] else place)) target
        | _, _ => .error .tooManyLinks
      | _ => .ok (place ++ [last])

end Disk

end KernelForge
