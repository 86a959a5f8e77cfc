import KernelForge.Shell.Fields

/-!
# Conditions

A condition is a list of words: operands, operators before one of them or between two, and the
operators that join conditions. Which words are operators depends on how many words follow, so that
an operand may look like one.
-/

namespace KernelForge.Shell

/-- What a word of a condition may be. -/
inductive ConditionWord where
  /-- An operand. -/
  | operand
  /-- An operator before an operand, by its letter. -/
  | unary (letter : Char)
  /-- An operator between two operands. -/
  | binary
  /-- The reverse of what follows. -/
  | not
  /-- Both conditions. -/
  | both
  /-- One of two conditions. -/
  | either
  /-- An opening parenthesis. -/
  | opening
  /-- A closing parenthesis. -/
  | closing
  /-- No word. -/
  | missing
  deriving DecidableEq

namespace ConditionWord

/-- The operators between two operands. -/
def binaryNames : List String :=
  ["=", "!=", "<", ">", "-eq", "-ne", "-ge", "-gt", "-le", "-lt", "-nt", "-ot", "-ef"]

/-- What a word is by itself. -/
def ofText (text : List Char) : ConditionWord :=
  match text with
  | ['!'] => not
  | ['('] => opening
  | [')'] => closing
  | ['-', 'a'] => both
  | ['-', 'o'] => either
  | text =>
    if binaryNames.contains (String.ofList text) then binary
    else
      match text with
      | ['-', c] => if "rwxefdcbpugkstznhLOGS".toList.contains c then unary c else operand
      | _ => operand

/-- Whether a word between `next` and so on is no operator but an operand. -/
def isOperand (following : List (List Char)) : Bool :=
  match following with
  | [] => true
  | [_] => false
  | next :: _ => ofText next = binary

/-- What the first of some words is where it stands. -/
def first : List (List Char) → ConditionWord
  | [] => missing
  | text :: following =>
    match ofText text with
    | unary c => if isOperand following then operand else unary c
    | opening => if following = [] then operand else opening
    | word => word

end ConditionWord

/-- An answer about some words, with those that begin at the last word read; or a fault. -/
abbrev ConditionReader : Type := List (List Char) → Except (List Char) (Bool × List (List Char))

/-- A condition without an operand. -/
def lacksArgument {α : Type} (operator : List Char) : Except (List Char) α :=
  .error (operator ++ ": argument expected".toList)

/-- The number that an operand writes. -/
def operandNumber (text : List Char) : Except (List Char) Int :=
  match integer? text with
  | some n => .ok n
  | none => .error ("Illegal number: ".toList ++ text)

/-- Whether an operator holds for an operand. -/
def testUnary (f : Files) (letter : Char) (text : List Char) : Except (List Char) Bool :=
  let p := Session.pathOf text
  let node := f.node p
  match letter with
  | 'z' => .ok (text = [])
  | 'n' => .ok (text ≠ [])
  | 't' => (operandNumber text).map fun _ ↦ false
  | 'e' | 'r' | 'w' | 'O' | 'G' => .ok node.isOk
  | 'f' => .ok (f.isFile p)
  | 'd' => .ok (f.isDirectory p)
  | 'x' => .ok (f.isRunnable p || f.isDirectory p)
  | 'c' => .ok (match node with
    | .ok .sink => true
    | _ => false)
  | 's' => .ok (match node with
    | .ok (.directory _) => true
    | .ok node => node.file?.any fun (_, content, _) ↦ content ≠ []
    | _ => false)
  | 'h' | 'L' => .ok (f.isOwnLink p)
  | _ => .ok false

/-- Whether an operator holds between two operands. -/
def testBinary (f : Files) (operator a b : List Char) : Except (List Char) Bool :=
  let numbers (r : Int → Int → Bool) : Except (List Char) Bool := do
    let x ← operandNumber a
    let y ← operandNumber b
    pure (r x y)
  match String.ofList operator with
  | "=" => .ok (a = b)
  | "!=" => .ok (a ≠ b)
  | "<" => .ok (!isSorted b a)
  | ">" => .ok (!isSorted a b)
  | "-eq" => numbers fun x y ↦ x = y
  | "-ne" => numbers fun x y ↦ x ≠ y
  | "-ge" => numbers fun x y ↦ y ≤ x
  | "-gt" => numbers fun x y ↦ y < x
  | "-le" => numbers fun x y ↦ x ≤ y
  | "-lt" => numbers fun x y ↦ x < y
  | "-ef" =>
    match f.node (Session.pathOf a), f.node (Session.pathOf b) with
    | .ok x, .ok y => .ok (x = y)
    | _, _ => .ok false
  | _ => .ok false

/-- A condition without operators that join conditions, whose first word is `word`. -/
def readPrimary (f : Files) (whole : ConditionWord → ConditionReader) (word : ConditionWord) :
    ConditionReader := fun words ↦
  match word, words with
  | .missing, _ => .ok (false, words)
  | .opening, words =>
    let inner := words.tail
    if ConditionWord.first inner = .closing then .ok (false, inner)
    else do
      let (value, last) ← whole (ConditionWord.first inner) inner
      if ConditionWord.first last.tail = .closing then .ok (value, last.tail)
      else .error "closing paren expected".toList
  | .unary letter, operator :: rest =>
    match rest with
    | text :: _ => (testUnary f letter text).map (·, rest)
    | [] => lacksArgument operator
  | _, a :: rest =>
    match rest with
    | operator :: more =>
      if ConditionWord.first rest = .binary then
        match more with
        | b :: _ => (testBinary f operator a b).map (·, more)
        | [] => lacksArgument operator
      else .ok (a ≠ [], words)
    | [] => .ok (a ≠ [], words)
  | _, [] => .ok (false, [])

/-- A condition that may be reversed. -/
def readReversed (f : Files) (whole : ConditionWord → ConditionReader) :
    (most : Nat) → ConditionWord → ConditionReader
  | most + 1, .not, words =>
    let next := ConditionWord.first words.tail
    let words := if next = .missing then words else words.tail
    (readReversed f whole most next words).map fun (value, last) ↦ (!value, last)
  | _, word, words => readPrimary f whole word words

/-- Conditions joined by a word; `join` tells what a further one adds. -/
def readJoins (operand : ConditionWord → ConditionReader) (joint : ConditionWord)
    (join : Bool → Bool → Bool) : (most : Nat) → ConditionWord → ConditionReader
  | 0, word, words => operand word words
  | most + 1, word, words => do
    let (value, last) ← operand word words
    if ConditionWord.first last.tail = joint then
      let next := last.drop 2
      let (more, last) ← readJoins operand joint join most (ConditionWord.first next) next
      .ok (join value more, last)
    else .ok (value, last)

/-- A whole condition, with others in parentheses up to a depth. -/
def readCondition (f : Files) : (depth : Nat) → ConditionWord → ConditionReader
  | 0, _, words => .ok (false, words)
  | depth + 1, word, words =>
    let primary := readReversed f (readCondition f depth) words.length
    let both := readJoins primary .both (· && ·) words.length
    readJoins both .either (· || ·) words.length word words

/-- The value of words that are read as a condition whose first word is `word`. -/
def conditionValue (f : Files) (word : ConditionWord) (words : List (List Char)) :
    Except (List Char) Bool := do
  match ← readCondition f (words.length + 1) word words with
  | (_, operator :: _ :: _) =>
    .error ((if operator = [] then [] else operator ++ ": ".toList) ++
      "unexpected operator".toList)
  | (value, _) => .ok value

/-- Whether the words of a condition hold. Three words with an operator in the middle, and three or
four that begin with a reverse or stand in parentheses, are read as that in any case. -/
def holds (f : Files) : (most : Nat) → (words : List (List Char)) → Except (List Char) Bool
  | _, [] => .ok false
  | 0, _ => .ok false
  | most + 1, words =>
    let few := words.length = 3 || words.length = 4
    let between := words.length = 3 && (words[1]?.map ConditionWord.ofText) = some .binary
    if between then conditionValue f .operand words
    else if few && words.head? = some ['('] && words.getLast? = some [')'] then
      let inner := words.tail.dropLast
      conditionValue f (ConditionWord.first inner) inner
    else if few && words.head? = some ['!'] then (holds f most words.tail).map (!·)
    else conditionValue f (ConditionWord.first words) words

end KernelForge.Shell
