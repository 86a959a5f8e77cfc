import KernelForge.Shell.Script

/-!
# The text of a script while it is read

A reader takes characters and tokens from a text and counts its lines; where it cannot go on, it
tells a fault. A token that was looked at can be given back. A backslash before a line feed joins
two lines.
-/

namespace KernelForge.Shell

/-- A token. -/
inductive Token where
  /-- A word. -/
  | word (w : Word)
  /-- An operator that parts commands. -/
  | operator (symbol : String)
  /-- The beginning of a redirection, with the number before it. -/
  | redirect (stream : Option Nat) (symbol : String)
  /-- The end of a line. -/
  | newline
  /-- The end of the text. -/
  | finish

/-- The words that have a meaning of their own where a command may begin. -/
def keywords : List String :=
  ["!", "case", "do", "done", "elif", "else", "esac", "fi", "for", "if", "in", "then", "until",
    "while", "\x7b", "\x7d"]

namespace Token

/-- The keyword that a token is. -/
def keyword? : Token → Option String
  | word w => w.bare?.filter keywords.contains
  | _ => none

/-- Whether a token is a keyword. -/
def isKeyword (t : Token) (name : String) : Bool := t.keyword? == some name

/-- Whether a token is an operator. -/
def isOperator (t : Token) (symbol : String) : Bool :=
  match t with
  | operator s => s == symbol
  | _ => false

/-- Whether a list of commands ends before a token. -/
def endsList (t : Token) : Bool :=
  match t with
  | finish => true
  | operator symbol => symbol == ")" || symbol == ";;"
  | t => t.keyword?.any ["do", "done", "elif", "else", "esac", "fi", "then", "\x7d"].contains

/-- The name of a token in a fault. -/
def name (t : Token) : String :=
  match t with
  | operator symbol => "\"" ++ symbol ++ "\""
  | redirect .. => "redirection"
  | newline => "newline"
  | finish => "end of file"
  | t =>
    match t.keyword? with
    | some keyword => "\"" ++ keyword ++ "\""
    | none => "word"

end Token

/-- A text of the script that is still to be read. -/
structure AwaitedDocument where
  /-- Its number. -/
  number : Nat
  /-- The line that closes it. -/
  closing : List Char
  /-- Whether tabulators before its lines do not count. -/
  strip : Bool
  /-- Whether it stands for itself. -/
  verbatim : Bool

/-- What is left of a text. -/
structure Source where
  /-- The characters. -/
  rest : List Char
  /-- The number of the present line. -/
  line : Nat := 1
  /-- A token that was given back. -/
  returned : Option Token := none
  /-- The number that the next text of the script gets. -/
  nextDocument : Nat := 0
  /-- The texts of the script that are behind the present line. -/
  awaited : List AwaitedDocument := []
  /-- The texts of the script that were read, by their numbers. -/
  documents : List (Nat × Word) := []
  /-- Whether this is a text of the script, or a part of it that is no command. -/
  isDocument : Bool := false
  /-- The line that ends a text of the script, and whether tabulators before its lines do not
  count. -/
  closing : Option (List Char × Bool) := none
  /-- Whether a line of such a text begins here. -/
  begins : Bool := false
  /-- What is behind the line that ended such a text. -/
  behind : List Char := []
  /-- Whether the word that closes a text of the script is being read, where nothing is replaced. -/
  isClosing : Bool := false
  /-- What names at the beginning of a command stand for. -/
  aliases : List (List Char × List Char) := []
  /-- The names whose texts are being read, each with the length of what is behind its text, and
  with whether that text ends in a blank. -/
  expanding : List (List Char × Nat × Bool) := []

/-- What may come where a token is read. -/
inductive Expecting where
  /-- A word that stands for itself. -/
  | argument
  /-- The first word of a command, behind assignments. -/
  | name
  /-- A command, which may begin with a keyword. -/
  | command
  deriving DecidableEq

/-- Why a text is no script. -/
structure Fault where
  /-- The line. -/
  line : Nat
  /-- What is wrong. -/
  text : String

/-- Reads from a source, or tells a fault. -/
abbrev Reading : Type → Type := StateT Source (Except Fault)

/-- What the reader of commands is asked for. -/
inductive Goal where
  /-- The commands of a line. -/
  | line
  /-- The commands of a body, at least one. -/
  | body
  /-- The commands up to a closing token, or none. -/
  | enclosed
  /-- One command. -/
  | command
  deriving DecidableEq

namespace Source

/-- The first character, and the source behind it. -/
def next? (s : Source) : Option Char × Source :=
  match s.rest with
  | [] => (none, s)
  | c :: rest =>
    (some c, if c = '\n' then { s with rest, line := s.line + 1, begins := true }
      else { s with rest })


/-- A text behind the line joints at its beginning, and how many there are. -/
def skipJoints : List Char → List Char × Nat
  | '\\' :: '\n' :: rest =>
    let (text, lines) := skipJoints rest
    (text, lines + 1)
  | text => (text, 0)

/-- The source at the beginning of a line of a text of the script: nothing is left of it if that
line closes the text. Line joints count unless the text stands for itself. -/
def beginLine (joins : Bool) (s : Source) : Source :=
  match s.begins, s.closing with
  | true, some (closing, strip) =>
    let (text, lines) := if joins then skipJoints s.rest else (s.rest, 0)
    let text := if strip then text.dropWhile (· = '\t') else text
    let after := text.drop closing.length
    if closing.isPrefixOf text && (after = [] || after.head? = some '\n') then
      { s with
        rest := []
        behind := after.tail
        line := s.line + lines + 1
        closing := none }
    else { s with rest := text, line := s.line + lines, begins := false }
  | _, _ => s

/-- A text behind blanks, line joints and a comment, and how many joints there are. -/
def skipBlanks : List Char → List Char × Nat
  | ' ' :: rest => skipBlanks rest
  | '\t' :: rest => skipBlanks rest
  | '\\' :: '\n' :: rest =>
    let (text, lines) := skipBlanks rest
    (text, lines + 1)
  | '#' :: rest => (rest.dropWhile (· ≠ '\n'), 0)
  | text => (text, 0)

/-- The source behind what `skip` leaves out. -/
def skipping (skip : List Char → List Char × Nat) (s : Source) : Source :=
  let (rest, lines) := skip s.rest
  { s with rest, line := s.line + lines }

/-- The source when the texts that were read to their ends are no longer being read; whether one of
them ends in a blank. -/
def leaveTexts (s : Source) : Bool × Source :=
  if s.expanding = [] then (false, s)
  else
    let length := s.rest.length
    let (ended, expanding) := s.expanding.partition fun (_, behind, _) ↦ length ≤ behind
    (ended.any fun (_, _, blank) ↦ blank, { s with expanding })

/-- What a name stands for, unless its text is being read. -/
def alias? (s : Source) (name : List Char) : Option (List Char) :=
  if s.expanding.any (·.1 = name) then none else s.aliases.lookup name

/-- The source with the text that a name stands for before it. -/
def expand (s : Source) (name text : List Char) : Source :=
  if text = [] then s
  else
    let blank := text.getLast?.any fun c ↦ c = ' ' || c = '\t'
    { s with rest := text ++ s.rest, expanding := (name, s.rest.length, blank) :: s.expanding }

/-- The longest beginning whose characters are all in a class, and the source behind it. -/
def run (p : Char → Bool) (s : Source) : List Char × Source :=
  let text := s.rest.takeWhile p
  let lines := text.count '\n'
  let s := { s with rest := s.rest.dropWhile p }
  (text, if lines = 0 then s else { s with line := s.line + lines })

end Source

namespace Reading

/-- Tells a fault on the present line. -/
def fault {α : Type} (text : String) : Reading α := do throw ⟨(← get).line, text⟩

/-- Takes the next character. -/
def take? : Reading (Option Char) := modifyGet Source.next?

/-- The next character behind line joints, which stays. -/
def peek? : Reading (Option Char) := do
  modify (Source.beginLine true)
  modify (Source.skipping Source.skipJoints)
  return (← get).rest.head?

/-- Takes the next character if it is `c`. -/
def takeIf (c : Char) : Reading Bool := do
  if (← peek?) = some c then
    let _ ← take?
    pure true
  else pure false

/-- Takes the characters of a class. -/
def takeRun (p : Char → Bool) : Reading (List Char) := modifyGet (Source.run p)

/-- Gives a token back. -/
def giveBack (t : Token) : Reading Unit := modify fun s ↦ { s with returned := some t }

/-- Tells that a token should not be here, where keywords count unless they are `plain` words. -/
def unexpected {α : Type} (t : Token) (wanted : Option String := none) (plain : Bool := false) :
    Reading α :=
  fault ((if plain && t.keyword?.isSome then "word" else t.name) ++ " unexpected" ++
    match wanted with
    | some wanted => " (expecting " ++ wanted ++ ")"
    | none => "")

end Reading

end KernelForge.Shell
