import KernelForge.Act
import KernelForge.Shell.Decimal

/-!
# Formatted output of scripts

A format is read as a list of pieces: characters that stand for themselves, directives, and at its
end perhaps a fault. It is used again and again until its arguments are used up; missing arguments
count as empty ones or as zero. An argument that is no number is complained of, and the output goes
on.
-/

namespace KernelForge.Shell

/-- Whether a character is an octal digit. -/
def isOctal (c : Char) : Bool := isDigitIn 8 c

/-- What an escape stands for, given what follows its backslash, and the rest. -/
def readEscape : List Char → Char × List Char
  | [] => ('\\', [])
  | c :: rest =>
    match "\\abefnrtv".toList.idxOf? c with
    | some i => (['\\', '\x07', '\x08', '\x1b', '\x0c', '\n', '\x0d', '\t', '\x0b'].getD i c, rest)
    | none =>
      if isOctal c then
        let digits := ((c :: rest).take 3).takeWhile isOctal
        (Char.ofNat (digitsValue 8 digits % 256), (c :: rest).drop digits.length)
      else ('\\', c :: rest)

/-- A text with its escapes replaced, and whether it asks to stop all output. -/
def unescape (fuel : Nat) (text : List Char) : List Char × Bool :=
  match fuel, text with
  | 0, _ | _, [] => ([], false)
  | fuel + 1, '\\' :: rest =>
    match rest with
    | 'c' :: _ => ([], true)
    | _ =>
      let digits := match rest with
        | '0' :: d :: more => if isOctal d then d :: more else rest
        | _ => rest
      let (c, after) := readEscape digits
      let (more, stop) := unescape fuel after
      (c :: more, stop)
  | fuel + 1, c :: rest =>
    let (more, stop) := unescape fuel rest
    (c :: more, stop)

/-- The words of an `echo`, and whether they ask to stop all output. -/
def echoWords : List (List Char) → List Char × Bool
  | [] => ([], false)
  | [w] => unescape w.length w
  | w :: rest =>
    match unescape w.length w with
    | (text, true) => (text, true)
    | (text, false) =>
      let (more, stop) := echoWords rest
      (text ++ ' ' :: more, stop)

/-- What `echo` writes. -/
def echo (words : List (List Char)) : List Char :=
  match words with
  | ['-', 'n'] :: rest => (echoWords rest).1
  | words =>
    match echoWords words with
    | (text, true) => text
    | (text, false) => text ++ ['\n']

/-- A measure in a directive. -/
inductive Measure where
  /-- A number. -/
  | fixed (n : Nat)
  /-- The next argument. -/
  | argument

/-- A directive of a format. -/
structure Directive where
  /-- The flags. -/
  flags : List Char
  /-- The least width. -/
  width : Measure
  /-- The precision, if there is one. -/
  precision : Option Measure
  /-- What is written. -/
  kind : Char

/-- A piece of a format. -/
inductive FormatPiece where
  /-- A character. -/
  | char (c : Char)
  /-- What an argument is written by. -/
  | directive (d : Directive)
  /-- What is wrong with the format from here on. -/
  | fault (text : List Char)

/-- A measure at the beginning of a text, and the rest. -/
def readMeasure : List Char → Measure × List Char
  | '*' :: rest => (.argument, rest)
  | text => (.fixed (decimalValue (text.takeWhile Char.isDigit)), text.dropWhile Char.isDigit)

/-- The kinds of directives. -/
def directiveKinds : List Char := "bcsdiouxXaAeEfFgG".toList

/-- The directive at the beginning of a text, after its percent sign, and the rest. -/
def readDirective (text : List Char) : FormatPiece × List Char :=
  let isFlag (c : Char) := "#-+ 0".toList.contains c
  let flags := text.takeWhile isFlag
  let (width, rest) := readMeasure (text.dropWhile isFlag)
  let (precision, rest) := match rest with
    | '.' :: rest =>
      let (precision, rest) := readMeasure rest
      (some precision, rest)
    | rest => (none, rest)
  match rest with
  | [] => (.fault "missing format character".toList, [])
  | kind :: rest =>
    if directiveKinds.contains kind then (.directive ⟨flags, width, precision, kind⟩, rest)
    else
      let shown := text.take (text.length - rest.length)
      (.fault ('%' :: shown ++ ": invalid directive".toList), [])

/-- The pieces of a format. -/
def readFormat (fuel : Nat) (text : List Char) : List FormatPiece :=
  match fuel, text with
  | 0, _ | _, [] => []
  | fuel + 1, '\\' :: rest =>
    let (c, after) := readEscape rest
    .char c :: readFormat fuel after
  | fuel + 1, '%' :: '%' :: rest => .char '%' :: readFormat fuel rest
  | fuel + 1, '%' :: rest =>
    let (piece, after) := readDirective rest
    piece :: readFormat fuel after
  | fuel + 1, c :: rest => .char c :: readFormat fuel rest

/-- An output in the making. -/
structure Formatting where
  /-- The arguments that are left. -/
  arguments : List (List Char)
  /-- What was written. -/
  text : List Char := []
  /-- What was complained of. -/
  complaints : List (List Char) := []

/-- Why an output ends before its format. -/
inductive Halt where
  /-- An argument asks for it. -/
  | stopped
  /-- The format is wrong. -/
  | fault (text : List Char)

/-- A step of an output. -/
abbrev Formatter : Type → Type := Act Formatting Halt

namespace Formatter

/-- Writes a text. -/
def put (text : List Char) : Formatter Unit := modify fun f ↦ { f with text := f.text ++ text }

/-- Complains of an argument. -/
def complain (argument : List Char) (text : String) : Formatter Unit := modify fun f ↦
  { f with complaints := f.complaints ++ [argument ++ ": ".toList ++ text.toList] }

/-- The next argument, if there is one. -/
def next? : Formatter (Option (List Char)) := do
  match (← get).arguments with
  | [] => pure none
  | a :: rest =>
    modify fun f ↦ { f with arguments := rest }
    pure (some a)

/-- Complains of an argument unless all of it was read and it is not `beyond` what can be told. -/
def check (argument rest : List Char) (beyond : Bool) : Formatter Unit :=
  if rest = [] then
    if beyond then complain argument "Numerical result out of range" else pure ()
  else complain argument
    (if rest.length = argument.length then "expected numeric value" else "not completely converted")

/-- The code of the character behind a quotation mark, if an argument begins with one. -/
def characterCode? : List Char → Option Nat
  | '\'' :: rest | '"' :: rest => some ((rest.head?.map Char.toNat).getD 0)
  | _ => none

/-- The next argument as a number. -/
def number (signed : Bool) : Formatter Int := do
  match ← next? with
  | none => pure 0
  | some a =>
    match characterCode? a with
    | some code => pure code
    | none =>
      let s := scanNumber none a
      check a s.rest (if signed then s.exact ≠ s.signed else decide (UInt64.size ≤ s.magnitude))
      pure (if signed then s.signed else s.unsigned)

/-- The next argument as a double. -/
def double : Formatter Binary.Value := do
  match ← next? with
  | none => pure (.finite false 0 0)
  | some a =>
    match characterCode? a with
    | some code => pure (Double.ofInt code 0).value
    | none =>
      let (n, rest) := (scanNumeral a).getD (.ratio false 0 1, a)
      check a rest (n.isBeyond Binary.double)
      pure (n.valueIn Binary.double)

/-- The number of a measure. -/
def measure : Measure → Formatter Int
  | .fixed n => pure n
  | .argument => number true

end Formatter

/-- How a text is set: its least width, the side of the blanks, and whether zeros stand for them. -/
structure Setting where
  /-- The flags. -/
  flags : List Char
  /-- The least width. -/
  width : Nat
  /-- The precision, if there is one. -/
  precision : Option Nat

namespace Setting

/-- The setting with flags and measures. A negative width asks for blanks behind the text, and a
negative precision for none. -/
def ofMeasures (flags : List Char) (width : Int) (precision : Option Int) : Setting where
  flags := if width < 0 then '-' :: flags else flags
  width := width.natAbs
  precision := precision.bind fun n ↦ if n < 0 then none else some n.toNat

/-- The setting that a directive asks for. -/
def ofDirective (d : Directive) : Formatter Setting := do
  let width ← Formatter.measure d.width
  return ofMeasures d.flags width (← d.precision.mapM Formatter.measure)

/-- Whether a flag is set. -/
def has (s : Setting) (flag : Char) : Bool := s.flags.contains flag

/-- A text with blanks up to the width. -/
def pad (s : Setting) (text : List Char) : List Char :=
  let blanks := List.replicate (s.width - text.length) ' '
  if s.has '-' then text ++ blanks else blanks ++ text

/-- A text cut at the precision, with blanks up to the width. -/
def words (s : Setting) (text : List Char) : List Char :=
  s.pad (match s.precision with
    | some n => text.take n
    | none => text)

/-- Digits behind a sign or a prefix, with zeros between them if asked for. -/
def digits (s : Setting) (zeros : Bool) (lead body : List Char) : List Char :=
  if zeros && s.has '0' && !s.has '-' then
    lead ++ padDigits (s.width - lead.length) body
  else s.pad (lead ++ body)

/-- The sign of a number. -/
def sign (s : Setting) (negative : Bool) : List Char :=
  if negative then ['-'] else if s.has '+' then ['+'] else if s.has ' ' then [' '] else []

/-- The digits of a natural number. -/
def naturalDigits (s : Setting) (base n : Nat) : List Char :=
  match s.precision with
  | some places =>
    if n = 0 then List.replicate places '0' else padDigits places (Nat.toDigits base n)
  | none => Nat.toDigits base n

/-- A signed number. -/
def signedNumber (s : Setting) (n : Int) : List Char :=
  s.digits s.precision.isNone (s.sign (n < 0)) (s.naturalDigits 10 n.natAbs)

/-- An unsigned number in the base of a directive. -/
def unsignedNumber (s : Setting) (kind : Char) (n : Nat) : List Char :=
  let zeros := s.precision.isNone
  if kind = 'o' then
    let digits := s.naturalDigits 8 n
    s.digits zeros [] (if s.has '#' && digits.head? ≠ some '0' then '0' :: digits else digits)
  else if kind = 'x' || kind = 'X' then
    let lead := if s.has '#' && n ≠ 0 then ['0', 'x'] else []
    let cased (text : List Char) := if kind = 'X' then text.map Char.toUpper else text
    s.digits zeros (cased lead) (cased (s.naturalDigits 16 n))
  else s.digits zeros [] (s.naturalDigits 10 n)

/-- A fraction in the style of a directive; `digits` hexadecimal ones stand behind the point at
most. -/
def fraction (s : Setting) (digits : Nat) (kind : Char) (x : Binary.Value) : List Char :=
  let lead := s.sign (isNegative x)
  let text :=
    if kind.toLower = 'a' then
      s.digits (isFinite x) (lead ++ if isFinite x then ['0', 'x'] else [])
        (showHexadecimal digits s.precision (s.has '#') x)
    else
      let style : FractionStyle :=
        if kind.toLower = 'e' then .power else if kind.toLower = 'f' then .fixed else .general
      s.digits (isFinite x) lead (showMagnitude style (s.precision.getD 6) (s.has '#') x)
  if kind.isUpper then text.map Char.toUpper else text

/-- The least measure that is too great. -/
def measureLimit : Nat := 2147483615

/-- Whether a measure is too great. -/
def isTooGreat (s : Setting) : Bool :=
  measureLimit ≤ s.width || s.precision.any (measureLimit ≤ ·)

/-- Writes a text unless a measure is too great for it. -/
def put (s : Setting) (text : Unit → List Char) : Formatter Unit :=
  if s.isTooGreat then throw (.fault "xvsnprintf failed".toList) else Formatter.put (text ())

end Setting

/-- Writes an argument as a directive says. -/
def Directive.write (d : Directive) : Formatter Unit := do
  let s ← Setting.ofDirective d
  let kind := d.kind
  if kind = 's' then
    let argument := (← Formatter.next?).getD []
    s.put fun () ↦ s.words argument
  else if kind = 'b' then
    let argument := (← Formatter.next?).getD []
    let (text, stop) := unescape argument.length argument
    s.put fun () ↦ s.words text
    if stop then throw .stopped
  else if kind = 'c' then
    let argument := (← Formatter.next?).getD []
    s.put fun () ↦ s.pad [argument.head?.getD '\x00']
  else if kind = 'd' || kind = 'i' then
    let n ← Formatter.number true
    s.put fun () ↦ s.signedNumber n
  else if "ouxX".toList.contains kind then
    let n ← Formatter.number false
    s.put fun () ↦ s.unsignedNumber kind n.toNat
  else
    let x ← Formatter.double
    s.put fun () ↦ s.fraction 13 kind x

/-- Writes a piece. -/
def FormatPiece.write : FormatPiece → Formatter Unit
  | char c => Formatter.put [c]
  | directive d => d.write
  | fault text => throw (.fault text)

/-- Uses a format until the arguments are used up, or once if it uses none. -/
def useFormat (pieces : List FormatPiece) : (most : Nat) → Formatter Unit
  | 0 => pure ()
  | most + 1 => do
    let before := (← get).arguments.length
    pieces.forM FormatPiece.write
    let left := (← get).arguments.length
    if left ≠ 0 && left ≠ before then useFormat pieces most

/-- What a formatted output comes to: why it ended early, if it did, and what was written. -/
def formatAll (format : List Char) (arguments : List (List Char)) : Option Halt × Formatting :=
  match (useFormat (readFormat format.length format) (arguments.length + 1)).runFrom
    { arguments } with
  | (.ok (), f) => (none, f)
  | (.error halt, f) => (some halt, f)

end KernelForge.Shell
