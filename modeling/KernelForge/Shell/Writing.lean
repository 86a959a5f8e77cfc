import KernelForge.Shell.Format
import KernelForge.Shell.Options

/-!
# Programs that write

Beside the builtin commands that write there are programs of the same names, which a shell runs by a
path or in its own place. They know other options and escapes and word their complaints in another
way.
-/

namespace KernelForge.Shell

/-! ## Words -/

/-- What is read for a backslash and what follows it. -/
inductive Escape where
  /-- Characters. -/
  | chars (text rest : List Char)
  /-- The end of all output. -/
  | stop
  /-- Nothing that makes sense, for this reason. -/
  | fault (text : String)

/-- The value of digits as a byte. -/
def byteOf (base : Nat) (digits : List Char) : Char := Char.ofNat (digitsValue base digits % 256)

/-- The character for a letter behind a backslash. -/
def letterEscape? (c : Char) : Option Char :=
  ("\\abefnrtv".toList.idxOf? c).bind
    (['\\', '\x07', '\x08', '\x1b', '\x0c', '\n', '\x0d', '\t', '\x0b'][·]?)

/-- An escape in words, given what follows its backslash. -/
def echoEscape (text : List Char) : Escape :=
  match text with
  | [] => .chars ['\\'] []
  | 'c' :: _ => .stop
  | 'x' :: rest =>
    let digits := (rest.take 2).takeWhile (isDigitIn 16)
    if digits = [] then .chars ['\\', 'x'] rest
    else .chars [byteOf 16 digits] (rest.drop digits.length)
  | c :: rest =>
    match letterEscape? c with
    | some e => .chars [e] rest
    | none =>
      let body := if c = '0' then rest else text
      let digits := (body.take 3).takeWhile isOctal
      if c ≠ '0' && digits = [] then .chars ['\\', c] rest
      else .chars [byteOf 8 digits] (body.drop digits.length)

/-- A text with its escapes replaced as `escape` says, and whether it asks to stop all output. -/
def replaceEscapes (escape : List Char → Escape) : (most : Nat) → List Char → List Char × Bool
  | most + 1, '\\' :: rest =>
    match escape rest with
    | .chars text rest =>
      let (more, stop) := replaceEscapes escape most rest
      (text ++ more, stop)
    | _ => ([], true)
  | most + 1, c :: rest =>
    let (more, stop) := replaceEscapes escape most rest
    (c :: more, stop)
  | _, _ => ([], false)

/-- Whether escapes are replaced and whether the line ends, by the options before the words; and the
words. -/
def echoOptions (escapes ends : Bool) : List (List Char) → Bool × Bool × List (List Char)
  | ('-' :: letters) :: rest =>
    if letters = [] || !letters.all "neE".toList.contains then
      (escapes, ends, ('-' :: letters) :: rest)
    else
      let escapes := (letters.filter (· ≠ 'n')).getLast?.elim escapes (· == 'e')
      echoOptions escapes (ends && !letters.contains 'n') rest
  | words => (escapes, ends, words)

/-- What is written for words. -/
def echoedWords (words : List (List Char)) : List Char :=
  let (escapes, ends, words) := echoOptions false true words
  let text := [' '].intercalate words
  let (text, stop) := if escapes then replaceEscapes echoEscape text.length text else (text, false)
  if ends && !stop then text ++ ['\n'] else text

/-- Writes words. -/
def echoProgram (program : List Char) (words : List (List Char)) : Work Unit := do
  Work.ends 0
  Work.print (echoedWords words)
  checkOutput program

/-! ## Formats -/

/-- A piece of a format. -/
inductive PrintPiece where
  /-- Characters. -/
  | text (chars : List Char)
  /-- An argument with its escapes replaced. -/
  | escaped
  /-- An argument as a shell reads it. -/
  | quoted
  /-- What an argument is written by. -/
  | directive (d : Directive)
  /-- The end of all output. -/
  | stop
  /-- What is wrong with the format from here on. -/
  | fault (text : List Char)

/-- An escape with `digits` hexadecimal digits that tell a character by its number; most are left as
they are, since the output is plain. -/
def numberEscape (letter : Char) (digits : Nat) (text : List Char) : Escape :=
  let shown := (text.take digits).takeWhile (isDigitIn 16)
  let n := digitsValue 16 shown
  let rest := text.drop digits
  if shown.length < digits then .fault "missing hexadecimal number in escape"
  else if 0xD800 ≤ n && n < 0xE000 then
    .fault ("invalid universal character name \\" ++ letter.toString ++ String.ofList shown)
  else if n < 0x80 then .chars [Char.ofNat n] rest
  else
    let (mark, width) := if n < 0x10000 then ('u', 4) else ('U', 8)
    .chars ('\\' :: mark :: padDigits width ((Nat.toDigits 16 n).map Char.toUpper)) rest

/-- An escape in a format, given what follows its backslash; in an argument, a zero before octal
digits does not count. -/
def printEscape (argument : Bool) (text : List Char) : Escape :=
  match text with
  | [] => .chars ['\\'] []
  | 'c' :: _ => .stop
  | '"' :: rest => .chars ['"'] rest
  | 'x' :: rest =>
    let digits := (rest.take 2).takeWhile (isDigitIn 16)
    if digits = [] then .fault "missing hexadecimal number in escape"
    else .chars [byteOf 16 digits] (rest.drop digits.length)
  | 'u' :: rest => numberEscape 'u' 4 rest
  | 'U' :: rest => numberEscape 'U' 8 rest
  | c :: rest =>
    match letterEscape? c with
    | some e => .chars [e] rest
    | none =>
      if isOctal c then
        let body := if argument && c = '0' then rest else text
        let digits := (body.take 3).takeWhile isOctal
        .chars [byteOf 8 digits] (body.drop digits.length)
      else .chars ['\\', c] rest

/-- The kinds of directives that flags and a precision are not for. -/
def unfitKinds (flags : List Char) (precise : Bool) : List Char :=
  (if flags.contains '\'' || flags.contains 'I' then "aAceEosxX".toList else []) ++
    (if flags.contains '#' then "cdisu".toList else []) ++
    (if flags.contains '0' then "cs".toList else []) ++ if precise then ['c'] else []

/-- The directive at the beginning of a text, after its percent sign, and the rest. -/
def readPrintDirective (text : List Char) : PrintPiece × List Char :=
  let flags := text.takeWhile "I'-+ #0".toList.contains
  let (width, rest) := readMeasure (text.drop flags.length)
  let (precision, rest) := match rest with
    | '.' :: rest =>
      let (precision, rest) := readMeasure rest
      (some precision, rest)
    | rest => (none, rest)
  let rest := rest.dropWhile "lLhjtz".toList.contains
  let fits (kind : Char) := "aAcdeEfFgGiosuxX".toList.contains kind &&
    !(unfitKinds flags precision.isSome).contains kind
  match rest with
  | kind :: rest =>
    if fits kind then (.directive ⟨flags, width, precision, kind⟩, rest)
    else (unfit (text.take (text.length - rest.length)), [])
  | [] => (unfit text, [])
where
  /-- The directive is none. -/
  unfit (shown : List Char) : PrintPiece :=
    .fault ('%' :: shown ++ ": invalid conversion specification".toList)

/-- The pieces of a format. -/
def readPrintFormat : (most : Nat) → List Char → List PrintPiece
  | most + 1, '\\' :: rest =>
    match printEscape false rest with
    | .chars text rest => .text text :: readPrintFormat most rest
    | .stop => [.stop]
    | .fault text => [.fault text.toList]
  | most + 1, '%' :: rest =>
    match rest with
    | '%' :: rest => .text ['%'] :: readPrintFormat most rest
    | 'b' :: rest => .escaped :: readPrintFormat most rest
    | 'q' :: rest => .quoted :: readPrintFormat most rest
    | rest =>
      let (piece, rest) := readPrintDirective rest
      piece :: readPrintFormat most rest
  | most + 1, c :: rest => .text [c] :: readPrintFormat most rest
  | _, _ => []

section

variable (program : List Char)

/-- Complains and ends the program. -/
def abandon {α : Type} (text : List Char) : Work α := do
  complainAs program text
  throw .exited

/-- Complains of an argument, unless all of it was read and it is not `beyond` what can be told. -/
def checkNumber (argument rest : List Char) (beyond : Bool) : Work Unit :=
  let say (text : String) := complainAs program (quotePlain argument ++ ": ".toList ++ text.toList)
  if beyond then say "Numerical result out of range"
  else if rest = [] then pure ()
  else if rest.length = argument.length then say "expected a numeric value"
  else say "value not completely converted"

/-- The code of the character behind a quotation mark, if an argument is one. -/
def quotedCode? (argument : List Char) : Work (Option Nat) :=
  match argument with
  | mark :: c :: rest =>
    if mark = '\'' || mark = '"' then do
      if rest ≠ [] then Work.put 2 (program ++ ": warning: ".toList ++ rest ++
        ": character(s) following character constant have been ignored\n".toList)
      pure (some c.toNat)
    else pure none
  | _ => pure none

/-- The integer that an argument writes. -/
def printedInteger (signed : Bool) (argument : List Char) : Work Int := do
  match ← quotedCode? program argument with
  | some code => pure code
  | none =>
    let s := scanNumber none argument
    checkNumber program argument s.rest
      (if signed then s.exact ≠ s.signed else decide (UInt64.size ≤ s.magnitude))
    pure (if signed then s.signed else s.unsigned)

/-- The format in which fractions are held: an exponent of fifteen bits and sixty-four digits. -/
def extendedFormat : Binary.Format := ⟨15, 63⟩

/-- The fraction that an argument writes. -/
def printedFraction (argument : List Char) : Work Binary.Value := do
  match ← quotedCode? program argument with
  | some code => pure ((Numeral.ratio false code 1).valueIn extendedFormat)
  | none =>
    let (n, rest) := (scanNumeral argument).getD (.ratio false 0 1, argument)
    checkNumber program argument rest (n.isBeyond extendedFormat)
    pure (n.valueIn extendedFormat)

/-- The number of a measure, and the arguments that are left. -/
def printedMeasure (what : String) (arguments : List (List Char)) :
    Measure → Work (Int × List (List Char))
  | .fixed n => pure (n, arguments)
  | .argument => do
    let argument := arguments.headD []
    let n ← printedInteger program true argument
    if n < -2147483648 || 2147483647 < n then
      abandon program ("invalid ".toList ++ what.toList ++ ": ".toList ++ quotePlain argument)
    pure (n, arguments.tail)

/-- Writes an argument as a directive says; the arguments that are left. -/
def printDirective (d : Directive) (arguments : List (List Char)) : Work (List (List Char)) := do
  let (width, arguments) ← printedMeasure program "field width" arguments d.width
  let (precision, arguments) ← match d.precision with
    | none => pure (none, arguments)
    | some m => do
      let (n, arguments) ← printedMeasure program "precision" arguments m
      pure (some n, arguments)
  let s := Setting.ofMeasures d.flags width precision
  let argument := arguments.headD []
  let text : Unit → List Char ←
    if d.kind = 's' then pure fun () ↦ s.words argument
    else if d.kind = 'c' then pure fun () ↦ s.pad [argument.head?.getD '\x00']
    else if d.kind = 'd' || d.kind = 'i' then do
      let n ← printedInteger program true argument
      pure fun () ↦ s.signedNumber n
    else if "ouxX".toList.contains d.kind then do
      let n ← printedInteger program false argument
      pure fun () ↦ s.unsignedNumber d.kind n.toNat
    else do
      let x ← printedFraction program argument
      pure fun () ↦ s.fraction 15 d.kind x
  if s.isTooGreat then complainAs program "write error".toList else Work.print (text ())
  pure arguments.tail

/-- Writes a piece of a format; the arguments that are left. -/
def printPiece (arguments : List (List Char)) : PrintPiece → Work (List (List Char))
  | .text chars => do
    Work.print chars
    pure arguments
  | .escaped => do
    let argument := arguments.headD []
    let (text, stop) := replaceEscapes (printEscape true) argument.length argument
    Work.print text
    if stop then
      Work.ends 0
      throw .exited
    pure arguments.tail
  | .quoted => do
    Work.print (arguments.head?.elim [] quoteNeeded)
    pure arguments.tail
  | .directive d => printDirective program d arguments
  | .stop => do
    Work.ends 0
    throw .exited
  | .fault text => abandon program text
where
  /-- An argument between quotation marks, if it needs them. -/
  quoteNeeded (argument : List Char) : List Char :=
    if argument ≠ [] && argument.all isInert then argument else quoteForShell argument

/-- Uses a format until the arguments are used up, or once if it uses none; the arguments that are
left. -/
def printAll (pieces : List PrintPiece) : (most : Nat) → List (List Char) → Work (List (List Char))
  | 0, arguments => pure arguments
  | most + 1, arguments => do
    let left ← pieces.foldlM (printPiece program) arguments
    if left ≠ [] && left.length < arguments.length then printAll pieces most left else pure left

/-- Writes arguments in a format. -/
def formatProgram (words : List (List Char)) : Work Unit := do
  Work.ends 0
  match if words.head? = some ['-', '-'] then words.tail else words with
  | [] => complainOfUse program "missing operand".toList
  | format :: arguments =>
    let act := do
      let left ← printAll program (readPrintFormat format.length format) (arguments.length + 1)
        arguments
      match left.head? with
      | some first =>
        Work.put 2 (program ++ ": warning: ignoring excess arguments, starting with ".toList ++
          quotePlain first ++ ['\n'])
      | none => pure ()
    let done : Except Leave Unit ← Act.attempt act
    checkOutput program
    Act.ofExcept done

end

/-! ## The current directory -/

/-- The options of the program that shows the current directory. -/
def placeTable : OptionTable where
  letters := "LP".toList
  long := [⟨"logical", 'L', .nothing⟩, ⟨"physical", 'P', .nothing⟩, ⟨"help", 'h', .nothing⟩,
    ⟨"version", 'h', .nothing⟩]

/-- The current directory in the words of the environment, if they are straight and right. -/
def logicalDirectory? (s : Session) : Option (List Char) := do
  let path ← s.value? "PWD"
  let p := Session.pathOf path
  let isStraight := p.isAbsolute && p.segments.all fun q ↦ q ≠ Path.dot && q ≠ Path.dotDot
  let here ← (s.files.node (.ofString ".")).toOption
  let there ← (s.files.node p).toOption
  if isStraight && here = there then some path else none

/-- Shows the current directory. -/
def placeProgram (program : List Char) (words : List (List Char)) : Work Unit := do
  Work.ends 0
  let a := readArguments placeTable words
  match a.fault with
  | some fault => complainOfUse program fault
  | none =>
    if a.given.any (·.letter = 'h') then pure ()
    else
      if a.operands ≠ [] then Work.put 2 (program ++ ": ignoring non-option arguments\n".toList)
      let s ← get
      let isLogical := (a.given.getLast?.map (·.letter)) = some 'L'
      match if isLogical then logicalDirectory? s else none, s.files.current with
      | some path, _ => Work.print (path ++ ['\n'])
      | none, .ok p => Work.print (Session.textOf p ++ ['\n'])
      | none, .error _ =>
        complainAs program "couldn't find directory entry in '..' with matching i-node".toList
      checkOutput program

end KernelForge.Shell
