import KernelForge.Shell.Condition
import KernelForge.Shell.Quotation

/-!
# The program that tells whether a condition holds

A program reads conditions by rules that are stricter than those of a shell: how many words there
are decides what they mean, and what means nothing is a failure.
-/

namespace KernelForge.Shell.Inquiry

/-- The answer about the first of some words, with the words behind them; or what is wrong. -/
abbrev Answer : Type := Except (List Char) (Bool × List (List Char))

/-- Words end too early; `last` is the last one of all. -/
def beyond {α : Type} (last : List Char) : Except (List Char) α :=
  .error ("missing argument after ".toList ++ quotePlain last)

/-- Whether a word stands between two operands. -/
def isBinary (word : List Char) : Bool :=
  ["=", "!=", "==", "-nt", "-ot", "-ef", "-eq", "-ne", "-lt", "-le", "-gt", "-ge"].contains
    (String.ofList word)

/-- Whether a word looks like an operator before an operand. -/
def isUnary : List Char → Bool
  | ['-', _] => true
  | _ => false

/-- A condition that is a single word. -/
def single : List (List Char) → Answer
  | word :: rest => .ok (word ≠ [], rest)
  | [] => .ok (false, [])

/-- The number that an operand writes. -/
def number (text : List Char) : Except (List Char) Int :=
  let unsigned := text.dropWhile isSpace
  let negative := unsigned.head? = some '-'
  let digits := if negative || unsigned.head? = some '+' then unsigned.tail else unsigned
  let rest := digits.dropWhile Char.isDigit
  if (digits.head?.any Char.isDigit) && rest.all isSpace then
    let n := decimalValue (digits.takeWhile Char.isDigit)
    .ok (if negative then -n else n)
  else .error ("invalid integer ".toList ++ quotePlain text)

/-- An operator before an operand. -/
def unary (f : Files) (last : List Char) : List (List Char) → Answer
  | operator :: text :: rest =>
    match operator with
    | ['-', 'a'] => (testUnary f 'e' text).map (·, rest)
    | ['-', 't'] => (number text).map fun _ ↦ (false, rest)
    | ['-', c] =>
      if "erwxNOGfdsScbpLhugknz".toList.contains c then (testUnary f c text).map (·, rest)
      else .error (quotePlain operator ++ ": unary operator expected".toList)
    | operator => .error (quotePlain operator ++ ": unary operator expected".toList)
  | [operator] =>
    if operator.tail.all "aetrwxNOGfdsScbpLhugknz".toList.contains then beyond last
    else .error (quotePlain operator ++ ": unary operator expected".toList)
  | [] => beyond last

/-- The number that an operand writes, or the length of the operand. -/
def measure (byLength : Bool) (text : List Char) : Except (List Char) Int :=
  if byLength then .ok text.length else number text

/-- An operator between two operands, whose lengths count behind a mark. -/
def binary (f : Files) (leftLength : Bool) (words : List (List Char)) : Answer := do
  let words := if leftLength then words.tail else words
  let a := words.headD []
  let operator := (words.tail).headD []
  let more := words.drop 2
  let rightLength := 2 ≤ more.length && more.head? = some "-l".toList
  let more := if rightLength then more.tail else more
  let b := more.headD []
  let compare (r : Int → Int → Bool) : Answer := do
    let x ← measure leftLength a
    let y ← measure rightLength b
    .ok (r x y, more.tail)
  let isThere (text : List Char) : Bool := (f.node (Session.pathOf text)).isOk
  let unmeasured (holds : Bool) : Answer :=
    if leftLength || rightLength then .error (operator ++ " does not accept -l".toList)
    else .ok (holds, more.tail)
  match String.ofList operator with
  | "-eq" => compare fun x y ↦ x = y
  | "-ne" => compare fun x y ↦ x ≠ y
  | "-lt" => compare fun x y ↦ x < y
  | "-le" => compare fun x y ↦ x ≤ y
  | "-gt" => compare fun x y ↦ y < x
  | "-ge" => compare fun x y ↦ y ≤ x
  | "-nt" => unmeasured (isThere a && !isThere b)
  | "-ot" => unmeasured (isThere b && !isThere a)
  | "-ef" =>
    let same := match testBinary f operator a b with
      | .ok same => same
      | .error _ => false
    unmeasured same
  | "!=" => .ok (a ≠ b, more.tail)
  | _ => .ok (a = b, more.tail)

/-- The words behind exclamation marks, of which there is one, and whether the marks reverse. -/
def reversed (last : List Char) : List (List Char) → Except (List Char) (Bool × List (List Char))
  | ['!'] :: rest =>
    if rest = [] then beyond last else (reversed last rest).map fun (value, rest) ↦ (!value, rest)
  | words => .ok (false, words)

/-- How many of the words behind an opening parenthesis are in it. -/
def enclosed (words : List (List Char)) : Nat :=
  let found := (words.tail.findIdx (· = [')'])) + 1
  if found ≤ 4 then min found words.length else words.length

section

variable (f : Files) (last : List Char) (whole : Nat → List (List Char) → Answer)

/-- A condition that is not joined to others. -/
def term (words : List (List Char)) : Answer := do
  let (negated, words) ← reversed last words
  let (value, rest) ←
    match words with
    | [] => beyond last
    | ['('] :: inner =>
      if inner = [] then beyond last
      else
        let (value, rest) ← whole (enclosed inner) inner
        match rest with
        | [')'] :: rest => .ok (value, rest)
        | found :: _ => .error ("')' expected, found ".toList ++ quotePlain found)
        | [] => .error "')' expected".toList
    | word :: more =>
      if 3 ≤ more.length && word = "-l".toList && (more[1]?).any isBinary then
        binary f true words
      else if 2 ≤ more.length && (more[0]?).any isBinary then binary f false words
      else if isUnary word then unary f last words
      else single words
  .ok (negated != value, rest)

/-- Conditions joined by a word, at least one. -/
def joined (part : List (List Char) → Answer) (joint : List Char) (join : Bool → Bool → Bool) :
    (most : Nat) → List (List Char) → Answer
  | 0, words => part words
  | most + 1, words => do
    let (value, rest) ← part words
    match rest with
    | word :: more =>
      if word = joint then
        let (other, rest) ← joined part joint join most more
        .ok (join value other, rest)
      else .ok (value, rest)
    | [] => .ok (value, [])

/-- Any condition. -/
def expression (words : List (List Char)) : Answer :=
  if words = [] then beyond last
  else
    let both := joined (term f last whole) "-a".toList (· && ·) words.length
    joined both "-o".toList (· || ·) words.length words

/-- A condition of two words. -/
def two (words : List (List Char)) : Answer :=
  match words with
  | ['!'] :: rest => (single rest).map fun (value, rest) ↦ (!value, rest)
  | word :: _ => if isUnary word then unary f last words else beyond last
  | [] => beyond last

/-- A condition of three words. -/
def three (words : List (List Char)) : Answer :=
  let middle := (words[1]?).getD []
  if isBinary middle then binary f false words
  else
    match words with
    | ['!'] :: rest => (two f last rest).map fun (value, rest) ↦ (!value, rest)
    | _ =>
      if words.head? = some ['('] && words[2]? = some [')'] then
        (single words.tail).map fun (value, rest) ↦ (value, rest.tail)
      else if middle = "-a".toList || middle = "-o".toList then expression f last whole words
      else .error (quotePlain middle ++ ": binary operator expected".toList)

/-- A condition of so many words. -/
def ofCount (count : Nat) (words : List (List Char)) : Answer :=
  match count, words with
  | 1, _ => single words
  | 2, _ => two f last words
  | 3, _ => three f last whole words
  | 4, ['!'] :: rest => (three f last whole rest).map fun (value, rest) ↦ (!value, rest)
  | 4, ['('] :: rest =>
    if words[3]? = some [')'] then (two f last rest).map fun (value, rest) ↦ (value, rest.tail)
    else expression f last whole words
  | _, _ => expression f last whole words

end

/-- A condition of so many words, with others in parentheses up to a depth. -/
def byCount (f : Files) (last : List Char) :
    (depth : Nat) → (count : Nat) → List (List Char) → Answer
  | 0, _, _ => beyond last
  | depth + 1, count, words => ofCount f last (byCount f last depth) count words

/-- Whether the words of a condition hold. -/
def inquire (f : Files) (words : List (List Char)) : Except (List Char) Bool :=
  if words = [] then .ok false
  else
    match byCount f (words.getLastD []) (words.length + 1) words.length words with
    | .ok (value, []) => .ok value
    | .ok (_, extra :: _) => .error ("extra argument ".toList ++ quotePlain extra)
    | .error fault => .error fault

end KernelForge.Shell.Inquiry

namespace KernelForge.Shell

/-- Tells whether a condition holds, which is between brackets or not. -/
def inquiryProgram (bracketed : Bool) (program : List Char) (words : List (List Char)) :
    Work Unit := do
  if bracketed && words.getLast? ≠ some [']'] then
    if words ≠ ["--help".toList] && words ≠ ["--version".toList] then
      complainAs program "missing ']'".toList
      Work.ends 2
  else
    match Inquiry.inquire (← get).files (if bracketed then words.dropLast else words) with
    | .ok value => Work.ends (if value then 0 else 1)
    | .error fault => do
      complainAs program fault
      Work.ends 2

end KernelForge.Shell
