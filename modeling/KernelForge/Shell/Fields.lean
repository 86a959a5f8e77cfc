import KernelForge.Shell.Pattern
import KernelForge.Shell.Session

/-!
# Fields

An expanded word is a list of stretches. Only what was not quoted is parted into fields, at the
characters that the shell parts fields at: blanks among them count once, however many there are, and
not at the beginning. A field that is a pattern stands for the names of the files that it matches,
if there are any.
-/

namespace KernelForge.Shell

/-- A stretch of an expanded word. -/
inductive Stretch where
  /-- Text that belongs to one field. -/
  | fixed (text : List Marked)
  /-- Text that is parted into fields. -/
  | loose (text : List Marked)
  /-- A place between quotes, where a field stands even if it is empty. -/
  | seam
  /-- Arguments, each a field of its own. -/
  | several (first : List Char) (rest : List (List Char))

/-- The characters of a text, quoted or not. -/
def mark (quoted : Bool) (text : List Char) : List Marked := text.map (Marked.mk · quoted)

/-- The text of marked characters. -/
def unmark (text : List Marked) : List Char := text.map Marked.char

/-- The characters of stretches, one after the other. -/
def flatten (stretches : List Stretch) : List Marked := stretches.flatMap fun
  | .fixed text => text
  | .loose text => text
  | .seam => []
  | .several first rest => mark true (first ++ rest.flatten)

/-- A word while it is parted. -/
structure Parting where
  /-- The complete fields, the last one first. -/
  done : List (List Marked) := []
  /-- The field that is being made, its last character first. -/
  current : List Marked := []
  /-- Whether the field stands even if it is empty. -/
  stands : Bool := false
  /-- Whether the last stretch to be parted was a list of arguments. -/
  listed : Bool := false
  /-- Whether the last field ended at a blank just now. -/
  blank : Bool := false
  /-- How many more fields may be made, if not any number; the last one takes all that is left. -/
  most : Option Nat := none
  /-- How much of the last field is kept. -/
  kept : Option Nat := none

namespace Parting

/-- Completes the field that is being made. -/
def close (p : Parting) : Parting :=
  { p with
    done := p.current.reverse :: p.done
    current := []
    stands := false
    most := p.most.map (· - 1) }

/-- Takes a character that may part fields, with those that do. -/
def take (gaps : List Char) (p : Parting) (m : Marked) : Parting :=
  let isGap := gaps.contains m.char || m.char = '\x00'
  let isBlank := isGap && " \t\n\x00".toList.contains m.char
  let longer := { p with current := m :: p.current }
  if p.most = some 0 then
    if isBlank then { longer with kept := p.kept.or (some p.current.length) }
    else { longer with kept := if isGap && p.blank then p.kept else none, blank := false }
  else if p.blank && isGap then { p with blank := isBlank }
  else if !isGap then { longer with blank := false }
  else
    let blank := isBlank && !p.listed
    if blank && p.current = [] && !p.stands then p
    else if p.most = some 1 then
      { longer with most := some 0, kept := some p.current.length, blank }
    else { p.close with blank }

/-- Takes a stretch. -/
def add (gaps : List Char) (p : Parting) : Stretch → Parting
  | .fixed text => { p with current := text.reverse ++ p.current }
  | .seam => { p with stands := true }
  | .several first rest =>
    let current := (mark true first).reverse ++ p.current
    let next (p : Parting) (text : List Char) :=
      { p.close with current := (mark true text).reverse }
    rest.foldl next { p with listed := true, blank := false, current }
  | .loose text =>
    let taken := text.foldl (take gaps) { p with blank := false }
    { taken with listed := false }

/-- The fields at the end. -/
def finish (p : Parting) : List (List Marked) :=
  let whole := p.current.reverse
  let last := match p.kept with
    | some n => whole.take n
    | none => whole
  (if p.listed || last ≠ [] || p.stands then last :: p.done else p.done).reverse

end Parting

/-- The fields of stretches, at most `most` of them, parted at `gaps`. -/
def fieldsOf (gaps : List Char) (most : Option Nat) (stretches : List Stretch) :
    List (List Marked) :=
  (stretches.foldl (Parting.add gaps) { most }).finish

/-- Whether a text comes before another one or is the same. -/
def isSorted : List Char → List Char → Bool
  | [], _ => true
  | _, [] => false
  | a :: rest, b :: more => a < b || (a = b && isSorted rest more)

/-- The names in a directory that a pattern matches. A dot at the beginning is matched by a dot
alone. -/
def matchingNames (f : Files) (directory : List Char) (pattern : List Marked) : List (List Char) :=
  let p := Session.pathOf (if directory = [] then ['.'] else directory)
  match f.entries p with
  | .error _ => []
  | .ok entries =>
    let dotted := pattern.head?.map Marked.char = some '.'
    let names := (if dotted then [['.'], ['.', '.']] else []) ++
      entries.map fun entry ↦ Bytes.chars entry.1
    names.filter fun name ↦ (dotted || name.head? ≠ some '.') && matchesPattern pattern name

/-- The pieces of a field between slashes. -/
def fieldSegments : List Marked → List (List Marked)
  | [] => [[]]
  | m :: rest =>
    if m.char = '/' then [] :: fieldSegments rest
    else
      match fieldSegments rest with
      | [] => [[m]]
      | segment :: more => (m :: segment) :: more

/-- The paths behind `before` that match the segments of a pattern. -/
def matchingPaths (f : Files) (before : List Char) : List (List Marked) → List (List Char)
  | [] => []
  | [last] =>
    if hasPattern last then (matchingNames f before last).map (before ++ ·)
    else
      let path := before ++ unmark last
      if (f.ownNode (Session.pathOf path)).isOk then [path] else []
  | segment :: rest =>
    if hasPattern segment then
      (matchingNames f before segment).flatMap fun name ↦
        matchingPaths f (before ++ name ++ ['/']) rest
    else matchingPaths f (before ++ unmark segment ++ ['/']) rest

/-- The texts that a field stands for: the paths that it matches in order, or itself. -/
def namesOf (f : Files) (field : List Marked) : List (List Char) :=
  if hasPattern field then
    match (matchingPaths f [] (fieldSegments field)).mergeSort isSorted with
    | [] => [unmark field]
    | paths => paths
  else [unmark field]

end KernelForge.Shell
