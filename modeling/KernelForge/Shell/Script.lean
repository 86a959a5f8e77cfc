/-!
# Scripts

A script is a tree of commands. A word is a list of parts: text, parameters, the output of commands
and the value of arithmetic. What stands between quotes is marked, since it is neither split into
fields nor read as a pattern.
-/

namespace KernelForge.Shell

/-- Where a redirection leads. -/
inductive RedirectKind where
  /-- Reads from a file. -/
  | input
  /-- Writes to a file from its beginning, which must not be there if that is asked for. -/
  | output
  /-- Writes to a file from its beginning in any case. -/
  | clobber
  /-- Writes at the end of a file. -/
  | append
  /-- Reads and writes a file. -/
  | update
  /-- Does what another stream does. -/
  | duplicate
  /-- Reads the text of the script with a number. -/
  | document (number : Nat)
  deriving DecidableEq

/-- A redirection of the stream with a number; its target is a word. -/
structure Redirect (ω : Type) where
  /-- The number of the stream. -/
  stream : Nat
  /-- Where it leads. -/
  kind : RedirectKind
  /-- The file or stream it leads to, or the line that closes the text. -/
  target : ω

mutual

/-- A part of a word. -/
inductive Part where
  /-- Text that stands for itself. -/
  | text (chars : List Char) (quoted : Bool)
  /-- What is taken of a parameter. -/
  | parameter (name : String) (use : Use) (quoted : Bool)
  /-- The output of a command. -/
  | output (command : Command) (quoted : Bool)
  /-- The value of an arithmetic expression. -/
  | number (expression : List Part) (quoted : Bool)

/-- What is taken of a parameter. With `empty`, an empty value counts as none. -/
inductive Use where
  /-- Its value. -/
  | value
  /-- The length of its value. -/
  | length
  /-- Its value, or a word where it has none. -/
  | orElse (empty : Bool) (word : List Part)
  /-- A word where it has a value, else nothing. -/
  | instead (empty : Bool) (word : List Part)
  /-- Its value; where it has none, it gets the word. -/
  | orAssign (empty : Bool) (word : List Part)
  /-- Its value; where it has none, the script fails with the word. -/
  | orFail (empty : Bool) (word : List Part)
  /-- Its value, which counts as none if it is empty, and behind it a word, whose end is that of the
  word around it. -/
  | leading (word : List Part)
  /-- Its value without what a pattern matches at the beginning or at the end. -/
  | trim (atEnd longest : Bool) (pattern : List Part)
  /-- A use that there is not. -/
  | unknown

/-- A command. -/
inductive Command where
  /-- Nothing. -/
  | skip
  /-- Assignments, and words that name a command and its arguments, on line `line`. -/
  | simple (line : Nat) (assignments : List (String × List Part)) (words : List (List Part))
      (redirects : List (Redirect (List Part)))
  /-- Commands at the same time, the output of one being the input of the next. -/
  | pipeline (commands : List Command)
  /-- One after the other. -/
  | sequence (first second : Command)
  /-- The second if the first succeeds. -/
  | andThen (first second : Command)
  /-- The second if the first fails. -/
  | orElse (first second : Command)
  /-- Success for failure, and the reverse. -/
  | negate (command : Command)
  /-- A command that nobody waits for. -/
  | background (command : Command)
  /-- A command in a shell of its own, on line `line`. -/
  | subshell (line : Nat) (body : Command) (redirects : List (Redirect (List Part)))
  /-- One of two, by a condition. -/
  | branch (condition yes no : Command)
  /-- A body again and again, while the condition succeeds (`wanted`) or fails. -/
  | loop (wanted : Bool) (condition body : Command)
  /-- A body for every field of the words, on line `line`. -/
  | each (line : Nat) (name : String) (words : List (List Part)) (body : Command)
  /-- The body of the first case that has a pattern for the word, on line `line`. -/
  | choice (line : Nat) (word : List Part) (cases : List (List (List Part) × Command))
  /-- A command with redirections, on line `line`. -/
  | redirected (line : Nat) (body : Command) (redirects : List (Redirect (List Part)))
  /-- A function. -/
  | define (name : String) (body : Command)

end

instance : Inhabited Command := ⟨.skip⟩

/-- A word before expansion. -/
abbrev Word : Type := List Part

/-- The text of a word that is one plain text. -/
def Word.bare? : Word → Option String
  | [.text chars false] => some (String.ofList chars)
  | _ => none

/-- Whether a part of a word is quoted. -/
def Part.isQuoted : Part → Bool
  | .text _ quoted => quoted
  | .parameter _ _ quoted => quoted
  | .output _ quoted => quoted
  | .number _ quoted => quoted

/-- The plain texts of a word, one after the other. -/
def Word.texts (w : Word) : List Char := w.flatMap fun
  | .text chars _ => chars
  | _ => []

/-- A word while it is read. -/
structure Draft where
  /-- The parts before the text at the end, the last one first. -/
  parts : List Part := []
  /-- The text at the end, the last character first, and whether it is quoted. -/
  text : Option (List Char × Bool) := none

namespace Draft

/-- All parts, the last one first. -/
def closed (d : Draft) : List Part :=
  match d.text with
  | some (text, quoted) => .text text.reverse quoted :: d.parts
  | none => d.parts

/-- The word. -/
def word (d : Draft) : Word := d.closed.reverse

/-- The draft with a text at its end, which joins the one that is there if that is alike. -/
def addText (d : Draft) (chars : List Char) (quoted : Bool) : Draft :=
  match d.text with
  | some (text, before) =>
    if before = quoted then { d with text := some (chars.reverse ++ text, quoted) }
    else { parts := d.closed, text := some (chars.reverse, quoted) }
  | none => { d with text := some (chars.reverse, quoted) }

/-- The draft with a part at its end. -/
def addPart (d : Draft) : Part → Draft
  | .text chars quoted => d.addText chars quoted
  | part => { parts := part :: d.closed }

/-- A text that is added stands behind the texts that were there. -/
theorem texts_addText (d : Draft) (chars : List Char) (quoted : Bool) :
    (d.addText chars quoted).word.texts = d.word.texts ++ chars := by
  unfold addText
  split
  next text before h =>
    split <;> simp [word, closed, Word.texts, h]
  next h => simp [word, closed, Word.texts, h]

end Draft

/-- Whether a character may begin a name. -/
def isNameStart (c : Char) : Bool := c.isAlpha || c == '_'

/-- Whether a character may go on in a name. -/
def isNameRest (c : Char) : Bool := c.isAlphanum || c == '_'

/-- Whether a text is a name. -/
def isName : List Char → Bool
  | [] => false
  | c :: rest => isNameStart c && rest.all isNameRest

/-- The name and the value of a word that is an assignment. -/
def Word.assignment? : Word → Option (String × Word)
  | .text chars false :: rest =>
    let name := chars.takeWhile (· ≠ '=')
    match chars.dropWhile (· ≠ '=') with
    | _ :: value =>
      if isName name then
        some (String.ofList name, if value = [] then rest else .text value false :: rest)
      else none
    | [] => none
  | _ => none

/-- The builtin commands whose failure ends the script, and whose assignments stay. -/
def specialBuiltins : List String :=
  [":", ".", "break", "continue", "eval", "exec", "exit", "export", "local", "readonly", "return",
    "set", "shift", "times", "trap", "unset"]

end KernelForge.Shell
