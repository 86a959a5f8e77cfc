import KernelForge.Shell.Nesting
import KernelForge.Shell.Source

/-!
# Reading words

A word goes on until a blank or an operator. What stands between quotes, in braces or in arithmetic
is read by the rules of its own context. The commands inside a word are read by `read`, which is
given.
-/

namespace KernelForge.Shell

/-- Where a part of a word stands. -/
inductive Context where
  /-- Outside quotes. -/
  | plain
  /-- Between double quotes. -/
  | double
  /-- In a text of the script. -/
  | document
  /-- In the braces of a parameter, which stands between double quotes or not. -/
  | braced (quoted : Bool)
  /-- In arithmetic, in a number of open parentheses. -/
  | arithmetic (depth : Nat)
  deriving DecidableEq

namespace Context

/-- Whether text in a context is quoted. -/
def isQuoted : Context → Bool
  | plain => false
  | braced quoted => quoted
  | _ => true

/-- What is wrong if the text, which is one of the script or not, ends in a context. -/
def unclosed? (isDocument : Bool) : Context → Option String
  | plain | document => none
  | double | braced true =>
    some (if isDocument then "Missing '\x7d'" else "Unterminated quoted string")
  | braced false => some "Missing '\x7d'"
  | arithmetic _ => some "Missing '))'"

/-- Whether a backslash in a quoted context goes away before a character. -/
def frees (context : Context) (c : Char) : Bool :=
  "\\$`".toList.contains c || (c == '"' && context != document) ||
    (c == '\x7d' && context == braced true)

/-- The context of the words that go with a parameter. -/
def inBraces (context : Context) : Context := braced context.isQuoted

end Context

/-- Whether a plain character ends a word. -/
def endsWord (c : Char) : Bool := " \t\n;&|<>()".toList.contains c

/-- Whether a character is a parameter of its own. -/
def isSpecial (c : Char) : Bool := "@*#?$!-".toList.contains c

/-- Which parameter is between braces, and whether its length is asked for; nothing if it is
none. -/
def readSubject : Reading (Option (String × Bool)) := do
  match (← Reading.peek?), (← get).rest with
  | some '#', _ :: c :: more =>
    if isNameRest c then
      let _ ← Reading.take?
      return some (String.ofList (← named), true)
    else if c ≠ '\x7d' && more.head? = some '\x7d' then
      let _ ← Reading.take?
      let _ ← Reading.take?
      return if isSpecial c then some (c.toString, true) else none
    else
      let _ ← Reading.take?
      return some ("#", false)
  | some c, _ =>
    if isNameRest c then return some (String.ofList (← named), false)
    else if isSpecial c then
      let _ ← Reading.take?
      return some (c.toString, false)
    else return none
  | none, _ => return none
where
  /-- A name or a number. -/
  named : Reading (List Char) := do
    match (← get).rest.head? with
    | some c => Reading.takeRun (if c.isDigit then Char.isDigit else isNameRest)
    | none => pure []

/-- The use of a parameter after its name, up to the closing brace. -/
def readUse (sub : Context → Reading Word) (context : Context) (measured : Bool) : Reading Use := do
  if measured then
    if ← Reading.takeIf '\x7d' then return .length
    else
      let _ ← sub context.inBraces
      return .unknown
  else if ← Reading.takeIf '\x7d' then return .value
  else if ← Reading.takeIf ':' then withWord true
  else if ← Reading.takeIf '%' then trimmed true (← Reading.takeIf '%')
  else if ← Reading.takeIf '#' then trimmed false (← Reading.takeIf '#')
  else withWord false
where
  /-- A use that there is not. The character that asks for it is skipped, and is no end of a
  line. -/
  unknown : Reading Use := do
    modify fun s ↦ { s with rest := s.rest.tail }
    let _ ← sub context.inBraces
    return .unknown
  /-- A use with a word. -/
  withWord (empty : Bool) : Reading Use := do
    if ← Reading.takeIf '-' then return .orElse empty (← sub context.inBraces)
    else if ← Reading.takeIf '+' then return .instead empty (← sub context.inBraces)
    else if ← Reading.takeIf '=' then return .orAssign empty (← sub context.inBraces)
    else if ← Reading.takeIf '?' then return .orFail empty (← sub context.inBraces)
    else if ← Reading.takeIf '\x7d' then return .leading (← sub context.inBraces)
    else unknown
  /-- A use with a pattern. -/
  trimmed (atEnd longest : Bool) : Reading Use := do
    return .trim atEnd longest (← sub (.braced false))

/-- The commands between parentheses, the first of which was taken. No line closes a text of the
script among them, and their own texts end with them. -/
def readEnclosed (read : Goal → Reading Command) : Reading Command := do
  let before ← get
  set { before with isDocument := false, closing := none, awaited := [] }
  let command ← read .enclosed
  match (← get).returned with
  | some t =>
    modify fun s ↦ { s with
      returned := none
      awaited := before.awaited
      isDocument := before.isDocument
      closing := before.closing
      begins := false }
    if t.isOperator ")" then pure command else Reading.unexpected t (some "\")\"")
  | none => Reading.unexpected .finish (some "\")\"")

/-- The text up to a backquote, and what is behind it. A backslash goes away before another one, a
backquote or a dollar sign, and between double quotes also before a double quote. -/
def cutBackquoted (quoted : Bool) : List Char → Option (List Char × List Char)
  | [] => none
  | '`' :: rest => some ([], rest)
  | '\\' :: c :: rest => do
    let (text, after) ← cutBackquoted quoted rest
    if c = '\n' then some (text, after)
    else if "\\`$".toList.contains c || (quoted && c = '"') then some (c :: text, after)
    else some ('\\' :: c :: text, after)
  | c :: rest => do
    let (text, after) ← cutBackquoted quoted rest
    some (c :: text, after)

/-- The commands between backquotes, the first of which was taken. They are a text with lines of its
own. -/
def readBackquoted (read : Goal → Reading Command) (quoted : Bool) : Reading Command := do
  let s ← get
  match cutBackquoted quoted s.rest with
  | none =>
    set { s with line := s.line + s.rest.count '\n' }
    Reading.fault "EOF in backquote substitution"
  | some (text, after) =>
    let taken := s.rest.take (s.rest.length - after.length)
    set { rest := text, aliases := s.aliases, nextDocument := s.nextDocument : Source }
    let command ← read .enclosed
    let inner ← get
    set { s with
      rest := after
      line := s.line + taken.count '\n'
      nextDocument := inner.nextDocument
      documents := inner.documents ++ s.documents }
    pure command

/-- What a dollar sign stands for, if it is not a plain one. -/
def readDollar (read : Goal → Reading Command) (sub : Context → Reading Word) (context : Context) :
    Reading (Option Part) := do
  let quoted := context.isQuoted
  if ← Reading.takeIf '(' then
    if ← Reading.takeIf '(' then return some (.number (← sub (.arithmetic 0)) quoted)
    else return some (.output (← readEnclosed read) quoted)
  else if ← Reading.takeIf '\x7b' then
    match ← readSubject with
    | some (name, measured) =>
      return some (.parameter name (← readUse sub context measured) quoted)
    | none =>
      let _ ← sub context.inBraces
      return some (.parameter "" .unknown quoted)
  else
    match ← Reading.peek? with
    | none => return none
    | some c =>
      if isNameStart c then
        return some (.parameter (String.ofList (← Reading.takeRun isNameRest)) .value quoted)
      else if c.isDigit || isSpecial c then
        let _ ← Reading.take?
        return some (.parameter c.toString .value quoted)
      else return none

/-- Whether a word is the list of all arguments. -/
def isAllArguments : Word → Bool
  | [.parameter name .value _] => name == "@"
  | _ => false

/-- The word that a draft becomes by what follows it in its context, up to the end of that. -/
def readParts (read : Goal → Reading Command) (fuel : Nat) (context : Context) (w : Draft) :
    Reading Word :=
  match fuel with
  | 0 => Reading.fault "Word too long"
  | fuel + 1 => do
    let quoted := context.isQuoted
    match ← Reading.peek? with
    | none =>
      match context.unclosed? (← get).isDocument with
      | some text => Reading.fault text
      | none => pure w.word
    | some c =>
      if context = .plain && endsWord c then pure w.word
      else
        let _ ← Reading.take?
        if c = '\\' then
          match ← Reading.take? with
          | none => readParts read fuel context (w.addText ['\\'] true)
          | some d =>
            let kept := if quoted && !context.frees d then ['\\', d] else [d]
            readParts read fuel context (w.addText kept true)
        else if (c = '$' || c = '`') && (← get).isClosing then
          readParts read fuel context (w.addText [c] quoted)
        else if c = '$' then
          match ← readDollar read (fun context ↦ readParts read fuel context {}) context with
          | some part => readParts read fuel context (w.addPart part)
          | none => readParts read fuel context (w.addText ['$'] quoted)
        else if c = '`' then
          let part := Part.output (← readBackquoted read quoted) quoted
          readParts read fuel context (w.addPart part)
        else if c = '\'' && !quoted then
          let text ← Reading.takeRun (· ≠ '\'')
          match ← Reading.take? with
          | none => Reading.fault "Unterminated quoted string"
          | some _ => readParts read fuel context (w.addText text true)
        else if c = '"' && context ≠ .document then
          match context with
          | .double => pure w.word
          | .plain | .braced _ =>
            let parts ← readParts read fuel .double {}
            let w := if isAllArguments parts then w else w.addText [] true
            readParts read fuel context (parts.foldl Draft.addPart w)
          | context => readParts read fuel context (w.addText [c] quoted)
        else
          match context with
          | .braced _ =>
            if c = '\x7d' then pure w.word else readParts read fuel context (w.addText [c] quoted)
          | .arithmetic depth =>
            if c = '(' then readParts read fuel (.arithmetic (depth + 1)) (w.addText [c] quoted)
            else if c ≠ ')' then readParts read fuel context (w.addText [c] quoted)
            else if 0 < depth then
              readParts read fuel (.arithmetic (depth - 1)) (w.addText [c] quoted)
            else if ← Reading.takeIf ')' then pure w.word
            else readParts read fuel context (w.addText [c] quoted)
          | context => readParts read fuel context (w.addText [c] quoted)

/-- The symbol of a redirection. -/
def readSymbol : Reading String := do
  if ← Reading.takeIf '>' then
    if ← Reading.takeIf '>' then return ">>"
    else if ← Reading.takeIf '|' then return ">|"
    else if ← Reading.takeIf '&' then return ">&"
    else return ">"
  else
    let _ ← Reading.take?
    if ← Reading.takeIf '<' then
      if ← Reading.takeIf '-' then return "<<-" else return "<<"
    else if ← Reading.takeIf '&' then return "<&"
    else if ← Reading.takeIf '>' then return "<>"
    else return "<"

/-- The number of the stream that a word before a redirection names. -/
def streamNumber? (w : Word) : Option Nat :=
  match w with
  | [.text [c] false] => if c.isDigit then some (c.toNat - 48) else none
  | _ => none

/-- The lines up to the one that closes a text of the script, each as it stands. -/
def readLines (most : Nat) : Reading (List Char) := do
  match most with
  | 0 => pure []
  | most + 1 =>
    modify (Source.beginLine false)
    let line ← Reading.takeRun (· ≠ '\n')
    match ← Reading.take? with
    | none => pure line
    | some c => return line ++ c :: (← readLines most)

/-- Reads a text of the script, which begins here. -/
def readDocument (read : Goal → Reading Command) (steps : Nat) (d : AwaitedDocument) :
    Reading Unit := do
  modify fun s ↦ { s with
    isDocument := true, closing := some (d.closing, d.strip), begins := true, behind := [] }
  let w ←
    if d.verbatim then
      let text ← readLines steps
      pure [.text text true]
    else Word.nested <$> readParts read steps .document {}
  modify fun s ↦ { s with
    rest := s.behind
    isDocument := false
    closing := none
    begins := false
    documents := (d.number, w) :: s.documents }

/-- Reads a token from the text; whether what a name stands for, with a blank at its end, ended
before it. A word has at most `steps` pieces. The texts of the script that belong to a line are
behind its end. -/
def scanToken (read : Goal → Reading Command) (steps : Nat) : Reading (Token × Bool) := do
  modify (Source.skipping Source.skipBlanks)
  let follows ← modifyGet Source.leaveTexts
  return (← scanned, follows)
where
  /-- The token. -/
  scanned : Reading Token := do
    match ← Reading.peek? with
    | none => pure .finish
    | some '\n' =>
      let _ ← Reading.take?
      let awaited := (← get).awaited
      modify fun s ↦ { s with awaited := [] }
      awaited.forM (readDocument read steps)
      pure .newline
    | some c =>
      if c = '<' || c = '>' then return .redirect none (← readSymbol)
      else if c = '(' || c = ')' then
        let _ ← Reading.take?
        return .operator c.toString
      else if c = '&' || c = '|' || c = ';' then
        let _ ← Reading.take?
        let twice ← Reading.takeIf c
        return .operator (if twice then String.ofList [c, c] else c.toString)
      else
        let w ← Word.nested <$> readParts read steps .plain {}
        match ← Reading.peek?, streamNumber? w with
        | some d, some n =>
          if d = '<' || d = '>' then return .redirect (some n) (← readSymbol) else return .word w
        | _, _ => return .word w

/-- Reads a token where something is expected; a name that stands for a text gives the tokens of
that text, at most `turns` times in a row. -/
def expandToken (read : Goal → Reading Command) (steps : Nat) (expecting : Expecting) :
    (turns : Nat) → Reading Token
  | 0 => return (← scanToken read steps).1
  | turns + 1 => do
    let (t, follows) ← scanToken read steps
    let s ← get
    let name? := match t with
      | .word w => Word.bare? w
      | _ => none
    match name? with
    | none => pure t
    | some name =>
      let isKeyword := expecting = .command && t.keyword?.isSome
      if isKeyword || (expecting = .argument && !follows) then pure t
      else
        match s.alias? name.toList with
        | none => pure t
        | some text =>
          set (s.expand name.toList text)
          expandToken read steps (if expecting = .argument then .name else expecting) turns

/-- Reads a token, the one that was given back if there is one. -/
def readToken (read : Goal → Reading Command) (steps : Nat) (expecting : Expecting) :
    Reading Token := do
  match (← get).returned with
  | some t =>
    modify fun s ↦ { s with returned := none }
    pure t
  | none => expandToken read steps expecting steps

/-- The rest of a redirection after its symbol. -/
def readRedirect (read : Goal → Reading Command) (steps : Nat) (stream : Option Nat)
    (symbol : String) : Reading (Redirect Word) := do
  modify fun s ↦ { s with isClosing := symbol.startsWith "<<" }
  match ← readToken read steps .argument with
  | .word target =>
    let usual := if symbol.startsWith "<" then 0 else 1
    let result (kind : RedirectKind) (target : Word) : Redirect Word :=
      ⟨stream.getD usual, kind, target⟩
    match symbol with
    | "<" => return result .input target
    | ">" => return result .output target
    | ">|" => return result .clobber target
    | ">>" => return result .append target
    | "<>" => return result .update target
    | "<&" | ">&" => return result .duplicate target
    | symbol =>
      let s ← get
      let document : AwaitedDocument :=
        { number := s.nextDocument
          closing := target.texts
          strip := symbol == "<<-"
          verbatim := target.any Part.isQuoted }
      set { s with
        isClosing := false
        nextDocument := s.nextDocument + 1
        awaited := s.awaited ++ [document] }
      return result (.document s.nextDocument) target
  | t => Reading.unexpected t

end KernelForge.Shell
