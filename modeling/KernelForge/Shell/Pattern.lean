/-!
# Patterns

In a pattern a star stands for any text, a question mark for any character, and a list between
brackets for one of its characters. A quoted character, or one behind a backslash, stands for
itself.
-/

namespace KernelForge.Shell

/-- A character of a pattern or of a field, and whether it is quoted. -/
structure Marked where
  /-- The character. -/
  char : Char
  /-- Whether it is quoted. -/
  quoted : Bool
  deriving DecidableEq

/-- The classes of characters that have a name. -/
def characterClasses : List (String × (Char → Bool)) :=
  [("alpha", Char.isAlpha), ("digit", Char.isDigit), ("alnum", Char.isAlphanum),
    ("upper", Char.isUpper), ("lower", Char.isLower),
    ("space", " \t\n\x0b\x0c\x0d".toList.contains), ("blank", " \t".toList.contains),
    ("cntrl", fun c ↦ c.toNat < 32 || c.toNat = 127),
    ("print", fun c ↦ 32 ≤ c.toNat && c.toNat < 127),
    ("graph", fun c ↦ 32 < c.toNat && c.toNat < 127),
    ("punct", fun c ↦ 32 < c.toNat && c.toNat < 127 && !c.isAlphanum),
    ("xdigit", fun c ↦ c.isDigit || ('a' ≤ c && c ≤ 'f') || ('A' ≤ c && c ≤ 'F'))]

/-- A member of a list between brackets. -/
inductive ListItem where
  /-- The characters from one to another. -/
  | range (low high : Char)
  /-- The characters of a class. -/
  | named (isMember : Char → Bool)

/-- Whether a character is in a member of a list. -/
def ListItem.holds (i : ListItem) (c : Char) : Bool :=
  match i with
  | range low high => low ≤ c && c ≤ high
  | named isMember => isMember c

/-- A piece of a pattern. -/
inductive Piece where
  /-- A character that stands for itself. -/
  | exactly (c : Char)
  /-- Any character. -/
  | anyChar
  /-- Any text. -/
  | anyText
  /-- A character that is in a list (`wanted`) or not. -/
  | oneOf (wanted : Bool) (items : List ListItem)

/-- The class whose opening bracket was read, and what follows it. -/
def readClass? : List Marked → Option ((Char → Bool) × List Marked)
  | ⟨':', false⟩ :: rest => do
    let isPart (m : Marked) := !m.quoted && m.char ≠ ':'
    let isMember ← characterClasses.lookup (String.ofList ((rest.takeWhile isPart).map Marked.char))
    match rest.dropWhile isPart with
    | ⟨':', false⟩ :: ⟨']', false⟩ :: after => some (isMember, after)
    | _ => none
  | _ => none

/-- A character without the backslash before it, and what follows it. -/
def readLiteral? : List Marked → Option (Char × List Marked)
  | ⟨'\\', false⟩ :: m :: rest => some (m.char, rest)
  | m :: rest => some (m.char, rest)
  | [] => none

/-- The members of a list up to its closing bracket, and what follows it. The first character is a
member even if it is a closing bracket. -/
def readItems? (fuel : Nat) (text : List Marked) : Option (List ListItem × List Marked) :=
  match fuel with
  | 0 => none
  | fuel + 1 => do
    let (item, rest) ← readItem? text
    match rest with
    | ⟨']', false⟩ :: after => some ([item], after)
    | rest => do
      let (items, after) ← readItems? fuel rest
      some (item :: items, after)
where
  /-- One member. -/
  readItem? (text : List Marked) : Option (ListItem × List Marked) :=
    match text with
    | ⟨'[', false⟩ :: rest =>
      match readClass? rest with
      | some (isMember, after) => some (.named isMember, after)
      | none => readRange? text
    | text => readRange? text
  /-- A character, or a range of characters. -/
  readRange? (text : List Marked) : Option (ListItem × List Marked) := do
    let (low, rest) ← readLiteral? text
    match rest with
    | ⟨'-', false⟩ :: m :: more =>
      if m = ⟨']', false⟩ then some (.range low low, rest)
      else do
        let (high, after) ← readLiteral? (m :: more)
        some (.range low high, after)
    | rest => some (.range low low, rest)

/-- A list whose opening bracket was read, and what follows it. -/
def readList? (text : List Marked) : Option (Piece × List Marked) := do
  let (wanted, text) := match text with
    | ⟨'!', false⟩ :: rest => (false, rest)
    | text => (true, text)
  let (items, after) ← readItems? text.length text
  some (.oneOf wanted items, after)

/-- The pieces of a pattern. -/
def readPattern (fuel : Nat) (text : List Marked) : List Piece :=
  match fuel, text with
  | 0, _ | _, [] => []
  | fuel + 1, m :: rest =>
    if m.quoted then .exactly m.char :: readPattern fuel rest
    else if m.char = '*' then .anyText :: readPattern fuel rest
    else if m.char = '?' then .anyChar :: readPattern fuel rest
    else if m.char = '\\' then
      match rest with
      | next :: after => .exactly next.char :: readPattern fuel after
      | [] => [.exactly '\\']
    else if m.char = '[' then
      match readList? rest with
      | some (piece, after) => piece :: readPattern fuel after
      | none => .exactly '[' :: readPattern fuel rest
    else .exactly m.char :: readPattern fuel rest

/-- The ends of a text, the longest first. -/
def endings : List Char → List (List Char)
  | [] => [[]]
  | c :: rest => (c :: rest) :: endings rest

/-- Whether pieces match a text as a whole. -/
def matchPieces : List Piece → List Char → Bool
  | [], text => text = []
  | .exactly c :: more, text =>
    match text with
    | d :: rest => c = d && matchPieces more rest
    | [] => false
  | .anyChar :: more, text =>
    match text with
    | _ :: rest => matchPieces more rest
    | [] => false
  | .oneOf wanted items :: more, text =>
    match text with
    | d :: rest => items.any (·.holds d) == wanted && matchPieces more rest
    | [] => false
  | .anyText :: more, text => (endings text).any (matchPieces more)

/-- Whether a pattern matches a text as a whole. -/
def matchesPattern (pattern : List Marked) (text : List Char) : Bool :=
  matchPieces (readPattern pattern.length pattern) text

/-- Whether a field has a character that makes a pattern of it. -/
def hasPattern (field : List Marked) : Bool :=
  field.any fun m ↦ !m.quoted && "*?[".toList.contains m.char

end KernelForge.Shell
