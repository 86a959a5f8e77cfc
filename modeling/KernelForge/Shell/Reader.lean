import KernelForge.Shell.Words

/-!
# Reading scripts

A script is read line by line, as many lines at a time as its commands go on. Commands hold
commands, and the nesting is bounded; each reader is given the one for what stands further in. What
was read before a fault is still run.
-/

namespace KernelForge.Shell

section

variable (read : Goal → Reading Command) (steps : Nat)

/-- Reads a token, behind the ends of lines. -/
def readBehindLines (expecting : Expecting) : (lines : Nat) → Reading Token
  | 0 => readToken read steps expecting
  | lines + 1 => do
    match ← readToken read steps expecting with
    | .newline => readBehindLines expecting lines
    | t => pure t

/-- Reads a token, which must be a keyword. -/
def expectKeyword (name : String) : Reading Unit := do
  let t ← readToken read steps .command
  if !t.isKeyword name then Reading.unexpected t (some ("\"" ++ name ++ "\""))

/-- Reads a command behind the ends of lines. -/
def readNextCommand : Reading Command := do
  let t ← readBehindLines read steps .command steps
  Reading.giveBack t
  read .command

/-- Reads the redirections that come now. -/
def readRedirects : (most : Nat) → Reading (List (Redirect Word))
  | 0 => pure []
  | most + 1 => do
    match ← readToken read steps .command with
    | .redirect stream symbol => do
      let r ← readRedirect read steps stream symbol
      return r :: (← readRedirects most)
    | t =>
      Reading.giveBack t
      pure []

/-- Reads the words that come now. -/
def readWords : (most : Nat) → Reading (List Word)
  | 0 => pure []
  | most + 1 => do
    match ← readToken read steps .argument with
    | .word w => return w :: (← readWords most)
    | t =>
      Reading.giveBack t
      pure []

/-- The beginning of a simple command. -/
structure SimpleStart where
  /-- The assignments. -/
  assignments : List (String × Word) := []
  /-- The words. -/
  words : List Word := []
  /-- The redirections. -/
  redirects : List (Redirect Word) := []

/-- Reads the definition of a function, whose name and opening parenthesis were read. -/
def readFunction (name : Word) : Reading Command := do
  let t ← readToken read steps .argument
  if !t.isOperator ")" then Reading.unexpected t (some "\")\"") true
  match name.bare? with
  | some name =>
    if !isName name.toList || specialBuiltins.contains name then Reading.fault "Bad function name"
    else return .define name (← readNextCommand read steps)
  | none => Reading.fault "Bad function name"

/-- Reads the rest of a simple command, or of the definition of a function. -/
def readSimple (line : Nat) : (most : Nat) → SimpleStart → Reading Command
  | 0, _ => Reading.fault "Command too long"
  | most + 1, s => do
    match ← readToken read steps (if s.words = [] then .name else .argument) with
    | .word w =>
      match w.assignment?, s.words with
      | some a, [] => readSimple line most { s with assignments := s.assignments ++ [a] }
      | _, _ => readSimple line most { s with words := s.words ++ [w] }
    | .redirect stream symbol => do
      let r ← readRedirect read steps stream symbol
      readSimple line most { s with redirects := s.redirects ++ [r] }
    | t =>
      match t.isOperator "(", s.words, s.assignments, s.redirects with
      | true, [name], [], [] => readFunction read steps name
      | _, _, _, _ => do
        Reading.giveBack t
        return .simple line s.assignments s.words s.redirects

/-- Reads a choice after its first keyword. -/
def readBranch : (most : Nat) → Reading Command
  | 0 => Reading.fault "Command too long"
  | most + 1 => do
    let condition ← read .body
    expectKeyword read steps "then"
    let yes ← read .body
    let t ← readToken read steps .command
    if t.isKeyword "elif" then return .branch condition yes (← readBranch most)
    else if t.isKeyword "else" then
      let no ← read .body
      expectKeyword read steps "fi"
      return .branch condition yes no
    else if t.isKeyword "fi" then return .branch condition yes .skip
    else Reading.unexpected t (some "\"fi\"")

/-- Reads a loop after its first keyword. -/
def readLoop (wanted : Bool) : Reading Command := do
  let condition ← read .body
  expectKeyword read steps "do"
  let body ← read .body
  expectKeyword read steps "done"
  return .loop wanted condition body

/-- Reads a loop over fields after its first keyword. -/
def readEach (line : Nat) : Reading Command := do
  let name ← match ← readToken read steps .argument with
    | .word w =>
      match w.bare? with
      | some name => if isName name.toList then pure name else badName
      | none => badName
    | _ => badName
  let t ← readBehindLines read steps .command steps
  let words ←
    if t.isKeyword "in" then
      let words ← readWords read steps steps
      let t ← readToken read steps .argument
      match t with
      | .newline | .operator ";" => pure words
      | t => Reading.unexpected t
    else
      if !t.isOperator ";" then Reading.giveBack t
      pure [[Part.parameter "@" .value true]]
  let t ← readBehindLines read steps .command steps
  if !t.isKeyword "do" then Reading.unexpected t (some "\"do\"")
  let body ← read .body
  expectKeyword read steps "done"
  return .each line name words body
where
  /-- The variable has no name. -/
  badName : Reading String := Reading.fault "Bad for loop variable"

/-- Reads the patterns of a case up to the closing parenthesis, when the first was read. What is no
word counts as an empty one. -/
def readPatterns : (most : Nat) → (first : Token) → Reading (List Word)
  | 0, _ => Reading.fault "Command too long"
  | most + 1, first => do
    let w := match first with
      | .word w => w
      | _ => []
    let t ← readToken read steps .argument
    if t.isOperator "|" then return w :: (← readPatterns most (← readToken read steps .argument))
    else if t.isOperator ")" then pure [w]
    else Reading.unexpected t (some "\")\"") true

/-- Reads the cases of a choice up to its last keyword. -/
def readCases : (most : Nat) → Reading (List (List Word × Command))
  | 0 => Reading.fault "Command too long"
  | most + 1 => do
    let t ← readBehindLines read steps .argument steps
    if t.isKeyword "esac" then pure []
    else
      let t ← if t.isOperator "(" then readToken read steps .argument else pure t
      let patterns ← readPatterns read steps steps t
      let body ← read .enclosed
      let t ← readBehindLines read steps .command steps
      if t.isKeyword "esac" then pure [(patterns, body)]
      else if t.isOperator ";;" then return (patterns, body) :: (← readCases most)
      else Reading.unexpected t (some "\";;\"")

/-- Reads a choice by patterns after its first keyword. -/
def readChoice (line : Nat) : Reading Command := do
  match ← readToken read steps .argument with
  | .word w =>
    let t ← readBehindLines read steps .command steps
    if !t.isKeyword "in" then Reading.unexpected t (some "\"in\"")
    return .choice line w (← readCases read steps steps)
  | t => Reading.unexpected t (some "word")

/-- Reads one command: a simple one, or one of several parts with the redirections after it. -/
def readCommand : Reading Command := do
  let t ← readToken read steps .command
  let line := (← get).line
  match t.keyword? with
  | some "if" => behind line (← readBranch read steps steps)
  | some "while" => behind line (← readLoop read steps true)
  | some "until" => behind line (← readLoop read steps false)
  | some "for" => behind line (← readEach read steps line)
  | some "case" => behind line (← readChoice read steps line)
  | some "\x7b" =>
    let body ← read .body
    expectKeyword read steps "\x7d"
    behind line body
  | some _ => Reading.unexpected t
  | none =>
    match t with
    | .operator "(" => do
      let body ← read .body
      let t ← readToken read steps .command
      if !t.isOperator ")" then Reading.unexpected t (some "\")\"")
      return .subshell line body (← readRedirects read steps steps)
    | .word _ | .redirect .. => do
      Reading.giveBack t
      readSimple read steps line steps {}
    | t => Reading.unexpected t
where
  /-- A command with the redirections behind it. -/
  behind (line : Nat) (command : Command) : Reading Command := do
    match ← readRedirects read steps steps with
    | [] => pure command
    | redirects => return .redirected line command redirects

/-- Reads the commands behind pipes. -/
def readPiped : (most : Nat) → Reading (List Command)
  | 0 => pure []
  | most + 1 => do
    let t ← readToken read steps .command
    if t.isOperator "|" then
      let command ← readNextCommand read steps
      return command :: (← readPiped most)
    else
      Reading.giveBack t
      pure []

/-- Reads commands joined by pipes, which may be negated. -/
def readPipeline : Reading Command := do
  let t ← readToken read steps .command
  let negated := t.isKeyword "!"
  if !negated then Reading.giveBack t
  let first ← read .command
  let command := match ← readPiped read steps steps with
    | [] => first
    | more => .pipeline (first :: more)
  return if negated then .negate command else command

/-- Reads what is joined to `first` by the two logical operators. -/
def readLogical : (most : Nat) → Command → Reading Command
  | 0, first => pure first
  | most + 1, first => do
    let t ← readToken read steps .command
    if t.isOperator "&&" then readLogical most (.andThen first (← next))
    else if t.isOperator "||" then readLogical most (.orElse first (← next))
    else
      Reading.giveBack t
      pure first
where
  /-- The commands behind an operator. -/
  next : Reading Command := do
    let t ← readBehindLines read steps .command steps
    Reading.giveBack t
    readPipeline read steps

/-- Reads a list of commands behind those read so far. -/
def readList (goal : Goal) : (most : Nat) → Option Command → Reading Command
  | 0, _ => Reading.fault "Script too long"
  | most + 1, before => do
    let t ←
      if goal = .line then readToken read steps .command
      else readBehindLines read steps .command steps
    let sofar := before.getD .skip
    match t with
    | .newline => pure sofar
    | .finish =>
      Reading.giveBack t
      pure sofar
    | t =>
      Reading.giveBack t
      if goal ≠ .line && (goal = .enclosed || before.isSome) && t.endsList then pure sofar
      else
        let command ← readLogical read steps steps (← readPipeline read steps)
        let t ← readToken read steps .command
        let command := if t.isOperator "&" then .background command else command
        let joined := match before with
          | none => command
          | some before => .sequence before command
        match t with
        | .newline =>
          Reading.giveBack t
          readList goal most (some joined)
        | .operator "&" | .operator ";" => readList goal most (some joined)
        | .finish =>
          Reading.giveBack t
          pure joined
        | t =>
          if goal = .line then Reading.unexpected t
          else
            Reading.giveBack t
            pure joined

end

/-- Reads what a goal asks for, with commands inside commands up to a depth. -/
def readGoal (steps : Nat) : (depth : Nat) → Goal → Reading Command
  | 0, _ => Reading.fault "Commands too deep"
  | depth + 1, .command => readCommand (readGoal steps depth) steps
  | depth + 1, goal => readList (readGoal steps depth) steps goal steps none

/-- A line of a script, as far as its commands go on. -/
inductive ScriptLine where
  /-- No line is left. -/
  | finish
  /-- No command. -/
  | blank
  /-- Commands. -/
  | commands (command : Command)

/-- Reads the next line. -/
def readLine (steps : Nat) : Reading ScriptLine := do
  match ← readToken (readGoal steps steps) steps .command with
  | .finish => return .finish
  | .newline => return .blank
  | t =>
    Reading.giveBack t
    return .commands (← readGoal steps steps .line)

/-- The text of a script while it is read. Zero characters do not count. -/
def scriptSource (text : List Char) : Source := { rest := text.filter (· ≠ '\x00') }

/-- How many steps the reader of a text may take; what names stand for may be longer than the
text. -/
def readerSteps (text : List Char) : Nat := text.length + 100000

/-- Reads a text in which parameters, the output of commands and arithmetic are replaced. -/
def readPrompt (text : List Char) : Except Fault Word :=
  let steps := readerSteps text
  let source := { scriptSource text with isDocument := true }
  ((readParts (readGoal steps steps) steps .document {}).run source).map (·.1)

end KernelForge.Shell
