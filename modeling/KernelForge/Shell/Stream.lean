import KernelForge.Disk.Files

/-!
# Open streams

A stream leads to a text or to a file; two streams that lead to the same opening go on in it where
the other one stopped. Texts are lists of characters below 256, one for each byte.
-/

namespace KernelForge.Shell

/-- What is open. -/
inductive Opening where
  /-- The text that is still to be read. -/
  | supply (text : List Char)
  /-- The text that was written. -/
  | record (text : List Char)
  /-- The file with a serial number, from an offset on or always at its end. Its content is known
  even after it is removed. -/
  | file (serial : Nat) (content : Bytes) (offset : Nat) (reads writes atEnd : Bool)
  /-- What swallows all that is written and holds nothing. -/
  | sink

namespace Opening

/-- The content of a file after `bytes` are written at an offset. -/
def overwrite (content : Bytes) (offset : Nat) (bytes : Bytes) : Bytes :=
  content.take offset ++ List.replicate (offset - content.length) 0 ++ bytes ++
    content.drop (offset + bytes.length)

/-- Writes a text, if the opening is for writing. -/
def write? (o : Opening) (text : List Char) (d : Disk) : Option (Opening × Disk) :=
  match o with
  | supply _ => none
  | record before => some (record (before ++ text), d)
  | sink => some (sink, d)
  | file serial kept offset reads writes atEnd =>
    if !writes then none
    else
      let found := d.fileOf? serial
      let content := (found.map fun (_, content, _) ↦ content).getD kept
      let offset := if atEnd then content.length else offset
      let content := overwrite content offset (Bytes.ofChars text)
      some (file serial content (offset + text.length) reads writes atEnd,
        match found with
        | some (place, _, runnable) => d.put place (.file serial content runnable)
        | none => d)

/-- What is still to be read, if the opening is for reading. -/
def pending? (o : Opening) (d : Disk) : Option (List Char) :=
  match o with
  | supply text => some text
  | record _ => none
  | sink => some []
  | file serial kept offset reads _ _ =>
    let content := ((d.fileOf? serial).map fun (_, content, _) ↦ content).getD kept
    if reads then some (Bytes.chars (content.drop offset)) else none

/-- The opening after `n` characters were read. -/
def skip (o : Opening) (n : Nat) : Opening :=
  match o with
  | supply text => supply (text.drop n)
  | file serial kept offset reads writes atEnd => file serial kept (offset + n) reads writes atEnd
  | o => o

end Opening

/-- The streams of a process by number, as positions in a list of openings. -/
structure Streams where
  /-- The openings, which processes share. -/
  openings : List Opening
  /-- The position for each stream that is open. -/
  positions : List (Nat × Nat)

namespace Streams

/-- Nothing to read, and two texts for the output and for complaints. -/
def initial : Streams := ⟨[.supply [], .record [], .record []], [(0, 0), (1, 1), (2, 2)]⟩

/-- The position of a stream. -/
def position? (s : Streams) (stream : Nat) : Option Nat := s.positions.lookup stream

/-- What a stream leads to. -/
def opening? (s : Streams) (stream : Nat) : Option Opening := do s.openings[← s.position? stream]?

/-- The text that was written to the opening at a position. -/
def recorded (s : Streams) (position : Nat) : List Char :=
  match s.openings[position]? with
  | some (.record text) => text
  | _ => []

/-- Closes a stream. -/
def close (s : Streams) (stream : Nat) : Streams :=
  { s with positions := s.positions.filter (·.1 ≠ stream) }

/-- Leads a stream to the opening at a position. -/
def lead (s : Streams) (stream position : Nat) : Streams :=
  { s with positions := (stream, position) :: (s.close stream).positions }

/-- Leads a stream to a new opening. -/
def attach (s : Streams) (stream : Nat) (o : Opening) : Streams :=
  { s with openings := s.openings ++ [o] }.lead stream s.openings.length

/-- Sets what the stream leads to. -/
def update (s : Streams) (stream : Nat) (o : Opening) : Streams :=
  match s.position? stream with
  | some position => { s with openings := s.openings.set position o }
  | none => s

end Streams

end KernelForge.Shell
