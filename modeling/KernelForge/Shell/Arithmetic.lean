import KernelForge.Shell.Number
import KernelForge.Shell.Script

/-!
# Arithmetic in scripts

An expression is evaluated while it is read, so that what is wrong first is told first. Values are
words of sixty-four bits that wrap around; a name stands for the number that its variable holds.
Operators of the same rank go from left to right, while choices and assignments go from right to
left. What does not count is read but has no value and no effect.
-/

namespace KernelForge.Shell

/-- A token of an expression. -/
inductive Lexeme where
  /-- A number. -/
  | number (n : Int64)
  /-- A name. -/
  | name (name : String)
  /-- An operator or a parenthesis; one that there is not is a single character. -/
  | symbol (text : String)
  deriving DecidableEq

/-- The operators of several characters, the longer ones first. -/
def longSymbols : List String :=
  ["<<=", ">>=", "<<", ">>", "<=", ">=", "==", "!=", "&&", "||", "*=", "/=", "%=", "+=", "-=", "&=",
    "^=", "|="]

/-- The tokens of an expression. -/
def lexemes (fuel : Nat) (text : List Char) : List Lexeme :=
  match fuel, text with
  | 0, _ | _, [] => []
  | fuel + 1, c :: rest =>
    if c = ' ' || c = '\t' || c = '\n' then lexemes fuel rest
    else if c.isDigit then
      let s := scanNumber none (c :: rest)
      .number (Int64.ofInt s.signed) :: lexemes fuel s.rest
    else if isNameStart c then
      .name (String.ofList (c :: rest.takeWhile isNameRest)) ::
        lexemes fuel (rest.dropWhile isNameRest)
    else
      match longSymbols.find? fun s ↦ s.toList.isPrefixOf (c :: rest) with
      | some s => .symbol s :: lexemes fuel ((c :: rest).drop s.length)
      | none => .symbol c.toString :: lexemes fuel rest

/-- An operator between two values. -/
inductive Operator where
  /-- Multiplication. -/
  | mul
  /-- Division, toward zero. -/
  | div
  /-- The remainder, with the sign of the left side. -/
  | rem
  /-- Addition. -/
  | add
  /-- Subtraction. -/
  | sub
  /-- Shift to the left. -/
  | shiftLeft
  /-- Shift to the right, which keeps the sign. -/
  | shiftRight
  /-- Less. -/
  | less
  /-- At most. -/
  | atMost
  /-- More. -/
  | more
  /-- At least. -/
  | atLeast
  /-- The same. -/
  | same
  /-- Not the same. -/
  | differs
  /-- The bits of both. -/
  | bitAnd
  /-- The bits of one alone. -/
  | bitXor
  /-- The bits of either. -/
  | bitOr
  deriving DecidableEq

namespace Operator

/-- The operators by rank, the loosest first, with their symbols. -/
def ranks : List (List (String × Operator)) :=
  [[("|", bitOr)], [("^", bitXor)], [("&", bitAnd)], [("==", same), ("!=", differs)],
    [("<", less), ("<=", atMost), (">", more), (">=", atLeast)],
    [("<<", shiftLeft), (">>", shiftRight)], [("+", add), ("-", sub)],
    [("*", mul), ("/", div), ("%", rem)]]

/-- The operators that an assignment may apply, with its symbol. -/
def assigning : List (String × Operator) :=
  [("*=", mul), ("/=", div), ("%=", rem), ("+=", add), ("-=", sub), ("<<=", shiftLeft),
    (">>=", shiftRight), ("&=", bitAnd), ("^=", bitXor), ("|=", bitOr)]

/-- One for what holds, else zero. -/
def truth (b : Bool) : Int64 := if b then 1 else 0

/-- The value of an operator, if it has one. -/
def result? (o : Operator) (a b : Int64) : Option Int64 :=
  match o with
  | mul => some (a * b)
  | div => if b = 0 then none else some (a / b)
  | rem => if b = 0 then none else some (a % b)
  | add => some (a + b)
  | sub => some (a - b)
  | shiftLeft => some (a <<< b)
  | shiftRight => some (a >>> b)
  | less => some (truth (a < b))
  | atMost => some (truth (a ≤ b))
  | more => some (truth (b < a))
  | atLeast => some (truth (b ≤ a))
  | same => some (truth (a = b))
  | differs => some (truth (a ≠ b))
  | bitAnd => some (a &&& b)
  | bitXor => some (a ^^^ b)
  | bitOr => some (a ||| b)

end Operator

/-- Why an expression has no value. -/
inductive NoValue where
  /-- What is wrong with the whole expression. -/
  | expression (text : String)
  /-- A variable holds no number. -/
  | holding (value : List Char)

/-- An expression while it is evaluated. -/
structure Calculation where
  /-- The tokens that are left. -/
  tokens : List Lexeme
  /-- The values that variables were given, the newest first. -/
  given : List (String × Int64) := []

/-- A step of an evaluation. -/
abbrev Calculating : Type → Type := StateT Calculation (Except NoValue)

namespace Calculating

/-- The symbol that is next, if one is. -/
def symbol? : Calculating (Option String) := do
  match (← get).tokens with
  | .symbol s :: _ => pure (some s)
  | _ => pure none

/-- Takes the next token. -/
def take? : Calculating (Option Lexeme) := do
  match (← get).tokens with
  | [] => pure none
  | t :: rest =>
    modify fun c ↦ { c with tokens := rest }
    pure (some t)

/-- Tells that the expression is wrong. -/
def fault {α : Type} (text : String) : Calculating α := throw (.expression text)

/-- Takes a symbol that must be there. -/
def expect (symbol : String) : Calculating Unit := do
  if (← symbol?) ≠ some symbol then fault ("expecting '" ++ symbol ++ "'")
  let _ ← take?

/-- The value of an operator, if it counts. -/
def operate (live : Bool) (o : Operator) (a b : Int64) : Calculating Int64 :=
  if !live then pure b
  else
    match o.result? a b with
    | some n => pure n
    | none => fault "division by zero"

section

variable (value? : String → Option (List Char))

/-- The number of a variable, if it counts. -/
def ofVariable (live : Bool) (name : String) : Calculating Int64 := do
  if !live then return 0
  match (← get).given.lookup name with
  | some n => pure n
  | none =>
    let text := (value? name).getD []
    match variableInteger? text with
    | some n => pure (Int64.ofInt n)
    | none => throw (.holding text)

/-- An operand: a number, a name, or an expression in parentheses, behind its signs. -/
def operand (whole : Bool → Calculating Int64) (live : Bool) : (most : Nat) → Calculating Int64
  | 0 => fault "expecting primary"
  | most + 1 => do
    match ← take? with
    | some (.number n) => pure n
    | some (.name name) => ofVariable value? live name
    | some (.symbol "(") =>
      let n ← whole live
      expect ")"
      pure n
    | some (.symbol "+") => operand whole live most
    | some (.symbol "-") => return -(← operand whole live most)
    | some (.symbol "!") => return Operator.truth ((← operand whole live most) = 0)
    | some (.symbol "~") => return ~~~(← operand whole live most)
    | _ => fault "expecting primary"

/-- The value of `a` and what follows it in a chain of operators of one rank. -/
def chain (inner : Bool → Calculating Int64) (rank : List (String × Operator)) (live : Bool) :
    (most : Nat) → (a : Int64) → Calculating Int64
  | 0, a => pure a
  | most + 1, a => do
    match (← symbol?).bind (List.lookup · rank) with
    | none => pure a
    | some o =>
      let _ ← take?
      let b ← inner live
      chain inner rank live most (← operate live o a b)

/-- Chains of operators of the given ranks, the loosest first. -/
def ranked (inner : Bool → Calculating Int64) : List (List (String × Operator)) →
    (live : Bool) → Calculating Int64
  | [], live => inner live
  | rank :: tighter, live => do
    let a ← ranked inner tighter live
    chain (ranked inner tighter) rank live (← get).tokens.length a

/-- Values joined by a logical operator; whether the rest counts depends on the first. -/
def joined (inner : Bool → Calculating Int64) (symbol : String) (goesOn : Bool → Bool)
    (join : Bool → Bool → Bool) (live : Bool) : (most : Nat) → Calculating Int64
  | 0 => inner live
  | most + 1 => do
    let a ← inner live
    if (← symbol?) ≠ some symbol then pure a
    else
      let _ ← take?
      let b ← joined inner symbol goesOn join (live && goesOn (a ≠ 0)) most
      pure (Operator.truth (join (a ≠ 0) (b ≠ 0)))

/-- A choice, or what is no choice. -/
def choice (whole : Bool → Calculating Int64) (live : Bool) : (most : Nat) → Calculating Int64
  | 0 => fault "expecting primary"
  | most + 1 => do
    let inner (live : Bool) : Calculating Int64 :=
      ranked (fun live ↦ operand value? whole live (most + 1)) Operator.ranks live
    let both (live : Bool) : Calculating Int64 := joined inner "&&" id (· && ·) live most
    let a ← joined both "||" (!·) (· || ·) live most
    if (← symbol?) ≠ some "?" then pure a
    else
      let _ ← take?
      let yes ← whole (live && a ≠ 0)
      expect ":"
      let no ← choice whole (live && a = 0) most
      pure (if a ≠ 0 then yes else no)

/-- An assignment, or what is no assignment. -/
def whole : (most : Nat) → (live : Bool) → Calculating Int64
  | 0, _ => fault "expecting primary"
  | most + 1, live => do
    match (← get).tokens with
    | .name name :: .symbol s :: rest =>
      let o? := Operator.assigning.lookup s
      if s ≠ "=" && o?.isNone then choice value? (whole most) live (most + 1)
      else
        modify fun c ↦ { c with tokens := rest }
        let n ← whole most live
        let n ← match o? with
          | none => pure n
          | some o => do operate live o (← ofVariable value? live name) n
        if live then modify fun c ↦ { c with given := (name, n) :: c.given }
        pure n
    | _ => choice value? (whole most) live (most + 1)

end

end Calculating

/-- The value of a text, where `value?` tells the values of variables, and the values that variables
are given, the first first. -/
def arithmetic (value? : String → Option (List Char)) (text : List Char) :
    Except NoValue (Int64 × List (String × Int64)) := do
  let tokens := lexemes text.length text
  let (n, c) ← (Calculating.whole value? (tokens.length + 1) true).run { tokens }
  if c.tokens = [] then .ok (n, c.given.reverse) else .error (.expression "expecting EOF")

end KernelForge.Shell
