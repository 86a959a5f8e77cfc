import KernelForge.Shell.Arithmetic
import KernelForge.Shell.Fields
import KernelForge.Shell.Trim

/-!
# Expansion

The words of a command are expanded when it is run: tildes, parameters, the output of commands and
arithmetic are replaced, then fields are parted and patterns become names. What takes the output of
a command is given.
-/

namespace KernelForge.Shell

/-- What a word is expanded for. -/
structure Purpose where
  /-- Whether it is parted into fields. -/
  fields : Bool := false
  /-- Whether its plain text is parted, too, since it stands for a parameter. -/
  loose : Bool := false
  /-- Whether it is the value of an assignment, where a tilde may follow a colon. -/
  assigns : Bool := false
  /-- Whether tildes stand for themselves. -/
  verbatim : Bool := false

/-- Takes the output of a command. -/
abbrev Capture : Type := Command → Work (List Char)

/-- Whether a parameter is the list of all arguments. -/
def isList (name : String) : Bool := name == "@" || name == "*"

namespace Session

/-- What stands between arguments that are joined, if anything does. -/
def joint (s : Session) : List Char := (s.gaps.head?).toList

/-- The value of a parameter. -/
def parameter? (s : Session) (name : String) : Option (List Char) :=
  match name.toList with
  | ['@'] | ['*'] => some (s.joint.intercalate s.arguments)
  | ['#'] => some (toString s.arguments.length).toList
  | ['?'] => some (toString s.status).toList
  | ['$'] => some (toString s.process).toList
  | ['!'] => s.beside.map fun process ↦ (toString process).toList
  | ['-'] => some ((Switch.all.filter s.has).reverse.filterMap Switch.letter?)
  | c :: rest =>
    if c.isDigit then
      match decimalValue (c :: rest) with
      | 0 => some s.name
      | n + 1 => s.arguments[n]?
    else s.value? name
  | [] => none

end Session

/-- The stretch of a value. -/
def stretchOf (quoted : Bool) (text : List Char) : Stretch :=
  if quoted then .fixed (mark true text) else .loose (mark false text)

/-- The arguments as one text. Where fields are parted at them, zero characters are between them. -/
def argumentText (s : Session) (purpose : Purpose) (name : String) (quoted : Bool) : List Char :=
  let joined := !purpose.fields || (quoted && name == "*") || (!quoted && (s.value? "IFS").isNone)
  (if joined then s.joint else ['\x00']).intercalate s.arguments

/-- The texts between zero characters. -/
def zeroParts : List Char → List Char × List (List Char)
  | [] => ([], [])
  | c :: rest =>
    let (part, more) := zeroParts rest
    if c = '\x00' then ([], part :: more) else (c :: part, more)

/-- The stretches of arguments, or of what was left of them, as a text. Where fields are parted,
each is a field of its own if quoted. -/
def argumentStretches (s : Session) (purpose : Purpose) (name : String) (quoted : Bool)
    (text : List Char) : List Stretch :=
  if !(quoted && purpose.fields && name == "@") then [stretchOf quoted text]
  else if s.arguments = [] then []
  else
    let (first, rest) := zeroParts text
    [.several first rest]

/-- A plain text whose tilde, if it begins with one, stands for the home directory. The text goes on
behind it unless it is the last part of its word. -/
def tildeStretches (s : Session) (purpose : Purpose) (last : Bool) (text : List Char) :
    List Stretch :=
  let plain (text : List Char) : Stretch :=
    if purpose.loose then .loose (mark false text) else .fixed (mark false text)
  match text, s.value? "HOME" with
  | '~' :: rest, some home =>
    let ends := match rest with
      | [] => last
      | c :: _ => c = '/' || (purpose.assigns && c = ':')
    if ends then [.fixed (mark true home), plain rest] else [plain text]
  | text, _ => [plain text]

/-- A text cut behind each colon. -/
def colonPieces : List Char → List (List Char)
  | [] => [[]]
  | c :: rest =>
    if c = ':' then [c] :: colonPieces rest
    else
      match colonPieces rest with
      | [] => [[c]]
      | piece :: more => (c :: piece) :: more

/-- A plain text of a word; `first` and `last` tell whether it begins and ends the word. -/
def textStretches (s : Session) (purpose : Purpose) (first last : Bool) (text : List Char) :
    List Stretch :=
  let plain (text : List Char) : Stretch :=
    if purpose.loose then .loose (mark false text) else .fixed (mark false text)
  if purpose.verbatim then [plain text]
  else if purpose.assigns then
    let pieces := colonPieces text
    pieces.zipIdx.flatMap fun (piece, i) ↦
      if i = 0 && !first then [plain piece]
      else tildeStretches s purpose (last || i + 1 < pieces.length) piece
  else if first then tildeStretches s purpose last text
  else [plain text]

/-- Fails because a parameter has no value. -/
def failUnset {α : Type} (name : String) : Work α :=
  Work.fail (name.toList ++ ": parameter not set".toList)

/-- The value of an arithmetic expression; its assignments are made. -/
def arithmeticValue (text : List Char) : Work (List Char) := do
  match arithmetic (← get).value? text with
  | .error (.expression reason) =>
    Work.fail ("arithmetic expression: ".toList ++ reason.toList ++ ": \"".toList ++ text ++ ['"'])
  | .error (.holding value) => Work.noNumber value
  | .ok (n, given) =>
    given.forM fun (name, n) ↦ Work.assign name (showInteger n.toInt)
    pure (showInteger n.toInt)

/-- The value of a parameter, which must have one if the shell insists on it. -/
def valueOf (name : String) : Work (List Char) := do
  let s ← get
  match s.parameter? name with
  | some value => pure value
  | none => if s.has .nounset then failUnset name else pure []

/-- The output of a command as a value: without zero bytes, and without line feeds at its end. -/
def outputValue (text : List Char) : List Char :=
  ((text.filter (· ≠ '\x00')).reverse.dropWhile (· = '\n')).reverse

/-- The stretches of a word. -/
def expandParts (capture : Capture) (fuel : Nat) (purpose : Purpose) (w : Word) :
    Work (List Stretch) :=
  match fuel with
  | 0 => Work.fail "Word too deep".toList
  | fuel + 1 => do
    let pieces ← w.zipIdx.mapM fun (part, i) ↦ do
      match part with
      | .text chars true => pure [.seam, .fixed (mark true chars)]
      | .text chars false =>
        pure (textStretches (← get) purpose (i = 0) (i + 1 = w.length) chars)
      | .output command quoted =>
        return [stretchOf quoted (outputValue (← capture command))]
      | .number expression quoted =>
        let text ← expandParts capture fuel { verbatim := true } expression
        return [stretchOf quoted (← arithmeticValue (unmark (flatten text)))]
      | .parameter name use quoted => expandUse fuel name use quoted
    return pieces.flatten
where
  /-- The stretches of a use of a parameter. -/
  expandUse (fuel : Nat) (name : String) (use : Use) (quoted : Bool) : Work (List Stretch) := do
    let s ← get
    let stretches (text : List Char) : List Stretch :=
      if isList name then argumentStretches s purpose name quoted text
      else [stretchOf quoted text]
    let text : Work (List Char) :=
      if isList name then pure (argumentText s purpose name quoted) else valueOf name
    let whole : Work (List Stretch) := stretches <$> text
    let lacks (empty : Bool) : Bool :=
      match s.parameter? name with
      | none => true
      | some value => empty && value = []
    let inner := { purpose with loose := !quoted, verbatim := quoted }
    match use with
    | .value => whole
    | .length => return [stretchOf quoted (toString (← text).length).toList]
    | .orElse empty word => if lacks empty then expandParts capture fuel inner word else whole
    | .instead empty word => if lacks empty then pure [] else expandParts capture fuel inner word
    | .orAssign empty word =>
      if lacks empty then
        let value := unmark (flatten (← expandParts capture fuel { verbatim := quoted } word))
        if !isName name.toList then Work.fail (name.toList ++ ": bad variable name".toList)
        Work.assign name value
        return [stretchOf quoted value]
      else whole
    | .orFail empty word =>
      if !lacks empty then whole
      else if word.isEmpty then
        if empty then Work.fail (name.toList ++ ": parameter not set or null".toList)
        else failUnset name
      else
        let text ← expandParts capture fuel { verbatim := quoted } word
        Work.fail (name.toList ++ ": ".toList ++ unmark (flatten text))
    | .leading word =>
      if s.has .nounset && lacks true then failUnset name
      return (← whole) ++ (← expandParts capture fuel purpose word)
    | .trim atEnd longest pattern =>
      let value ← text
      if lacks false then return stretches value
      let pattern ← expandParts capture fuel {} pattern
      return stretches (trimPattern atEnd longest quoted (flatten pattern) value)
    | .unknown => Work.fail "Bad substitution".toList

/-- How deep words may be inside words. -/
def wordDepth : Nat := 10000

/-- The fields of words. -/
def expandWords (capture : Capture) (words : List Word) : Work (List (List Char)) := do
  let fields ← words.mapM fun w ↦ do
    let stretches ← expandParts capture wordDepth { fields := true } w
    let s ← get
    pure ((fieldsOf s.gaps none stretches).flatMap fun field ↦
      if s.has .noglob then [unmark field] else namesOf s.files field)
  return fields.flatten

/-- The text of a word that is not parted. -/
def expandText (capture : Capture) (purpose : Purpose) (w : Word) : Work (List Char) := do
  return unmark (flatten (← expandParts capture wordDepth purpose w))

/-- The pattern of a word. -/
def expandPattern (capture : Capture) (w : Word) : Work (List Marked) := do
  return flatten (← expandParts capture wordDepth {} w)

end KernelForge.Shell
