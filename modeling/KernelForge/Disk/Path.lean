import KernelForge.Text.Quoted
import KernelForge.Text.Utf8

/-!
# Paths

A path is a byte string; a slash parts its segments. Two readings are told apart: `steps` is what a
file lookup walks through, while `components` is the shape of the path as text, where repeated and
closing slashes and inner dots do not count.
-/

namespace KernelForge

/-- A path. -/
structure Path where
  /-- The bytes of the path. -/
  bytes : Bytes
  deriving DecidableEq, Inhabited

namespace Path

/-- The byte that parts segments. -/
def slash : UInt8 := 0x2F

/-- The segment that stands for the directory itself. -/
def dot : Bytes := [0x2E]

/-- The segment that stands for the directory above. -/
def dotDot : Bytes := [0x2E, 0x2E]

/-- The path with the text `s`. -/
def ofString (s : String) : Path := ⟨utf8 s⟩

/-- The path as text. -/
def text (p : Path) : String := Utf8.text p.bytes

/-- Whether the path starts at the root. -/
def isAbsolute (p : Path) : Bool := p.bytes.head? == some slash

/-- Whether the path ends in a slash. -/
def isSlashed (p : Path) : Bool := p.bytes.getLast? == some slash

/-- The pieces of a byte string between slashes, empty ones included. -/
def pieces : Bytes → List Bytes
  | [] => [[]]
  | b :: rest =>
    if b = slash then [] :: pieces rest
    else
      match pieces rest with
      | [] => [[b]]
      | piece :: more => (b :: piece) :: more

/-- The pieces of a path that are not empty. -/
def segments (p : Path) : List Bytes := (pieces p.bytes).filter (· ≠ [])

/-- The segments a file lookup walks through; a slash at the end asks for a directory, as a dot of
its own does. -/
def steps (p : Path) : List Bytes := p.segments ++ if p.isSlashed then [dot] else []

/-- The absolute path through the given names. -/
def ofNames (names : List Bytes) : Path :=
  ⟨slash :: (names.intersperse [slash]).flatten⟩

/-- A part of a path as text. -/
inductive Component where
  /-- The slash at the start. -/
  | root
  /-- The dot at the start. -/
  | here
  /-- Two dots. -/
  | up
  /-- Any other segment. -/
  | name (bytes : Bytes)
  deriving DecidableEq

/-- The path of one component. -/
def Component.path : Component → Path
  | .root => ⟨[slash]⟩
  | .here => ⟨dot⟩
  | .up => ⟨dotDot⟩
  | .name bytes => ⟨bytes⟩

/-- The component of a segment that is not a dot. -/
def Component.ofSegment (segment : Bytes) : Component :=
  if segment = dotDot then .up else .name segment

/-- Whether the path starts with a dot of its own. -/
def startsWithDot (p : Path) : Bool := (pieces p.bytes).head? == some dot

/-- The components of a path. Dots count only at the start of a relative path. -/
def components (p : Path) : List Component :=
  let rest := (p.segments.filter (· ≠ dot)).map Component.ofSegment
  if p.isAbsolute then .root :: rest
  else if p.startsWithDot then .here :: rest
  else rest

/-- The last component, where it is a name. -/
def fileName? (p : Path) : Option Bytes :=
  match p.components.getLast? with
  | some (.name bytes) => some bytes
  | _ => none

/-- `q` seen from `p`: an absolute path stands alone, a relative one is set behind a slash. -/
def join (p q : Path) : Path :=
  if q.isAbsolute then q
  else if p.bytes = [] ∨ p.isSlashed then ⟨p.bytes ++ q.bytes⟩
  else ⟨p.bytes ++ slash :: q.bytes⟩

/-- `p` with a further text segment. -/
def joinText (p : Path) (s : String) : Path := p.join (ofString s)

/-- The texts of `start`, extended piece by piece, that end in a component, the shortest first. -/
def growing (start : Bytes) : List Bytes → List Bytes
  | [] => []
  | piece :: more =>
    let rest := growing (start ++ piece ++ [slash]) more
    if piece = [] ∨ piece = dot then rest else (start ++ piece) :: rest

/-- The path cut after each of its components, the longest first. The root, or the empty path, comes
last. -/
def stems (p : Path) : List Path :=
  let texts :=
    if p.isAbsolute then [slash] :: growing [slash] (pieces p.bytes.tail)
    else if p.startsWithDot then [] :: dot :: growing (dot ++ [slash]) (pieces p.bytes).tail
    else [] :: growing [] (pieces p.bytes)
  texts.reverse.map Path.mk

/-- The path without its last component. The root and the empty path have no parent. -/
def parent? (p : Path) : Option Path := p.stems.tail.head?

/-- The path, its parent, the parent of that, and so on. -/
def ancestors (p : Path) : List Path := p :: p.stems.tail

/-- The path seen from `directory`, without dots and repeated slashes. Two slashes at the start
stay, as does one at the end. -/
def absoluteFrom (p directory : Path) : Path :=
  let body := p.components.filter (· ≠ .here)
  let twice := p.bytes.take 2 = [slash, slash] ∧ p.bytes[2]? ≠ some slash
  let path :=
    if p.isAbsolute then
      if twice then (body.drop 1).foldl (fun q c ↦ q.join c.path) ⟨[slash, slash]⟩
      else body.foldl (fun q c ↦ q.join c.path) ⟨[]⟩
    else body.foldl (fun q c ↦ q.join c.path) directory
  if p.isSlashed then path.join ⟨[]⟩ else path

/-- How a byte string that may not be text is written between quotes: a byte that is no text by its
number. -/
def quotedChars (bytes : Bytes) : List Char :=
  match bytes with
  | [] => []
  | b :: rest =>
    match Utf8.lead? b.toNat with
    | none => badByte b ++ quotedChars rest
    | some lead =>
      let (used, scalar?) := Utf8.follow lead.tails lead.low lead.high lead.bits rest
      (match scalar? with
        | some scalar => Text.escape (Char.ofNat scalar)
        | none => badByte b ++ (rest.take used).flatMap badByte) ++ quotedChars (rest.drop used)
termination_by bytes.length
decreasing_by all_goals simp only [List.length_cons, List.length_drop]; omega
where
  /-- A byte by its number. -/
  badByte (b : UInt8) : List Char := ['\\', 'x'] ++ (Bytes.hexDigits [b]).map Char.toUpper

/-- The path between double quotes. -/
def quoted (p : Path) : String := String.ofList ('"' :: quotedChars p.bytes ++ ['"'])

end Path

end KernelForge
