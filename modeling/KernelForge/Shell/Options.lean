import KernelForge.Shell.Quotation

/-!
# Options of programs

A program takes options and operands in any order. An option is a letter behind a dash, or a long
name behind two, which may be cut short as long as only one name begins so. What was read before a
fault still counts.
-/

namespace KernelForge.Shell

/-- Whether an option takes an argument. -/
inductive Takes where
  /-- It takes none. -/
  | nothing
  /-- It takes one that is joined to it, if there is one. -/
  | joined
  /-- It takes one, joined to it or behind it. -/
  | always
  deriving DecidableEq

/-- An option with a long name. -/
structure LongOption where
  /-- The name. -/
  name : String
  /-- The letter that stands for it. -/
  letter : Char
  /-- Whether it takes an argument. -/
  takes : Takes := .nothing

/-- The options that a program has. -/
structure OptionTable where
  /-- The letters. -/
  letters : List Char
  /-- The letters that an argument goes with. -/
  withArgument : List Char := []
  /-- The long names. -/
  long : List LongOption

/-- An option as it was given. -/
structure GivenOption where
  /-- The letter that stands for it. -/
  letter : Char
  /-- The argument that came with it. -/
  value? : Option (List Char) := none
  /-- The argument of the program that it stands in. -/
  word : List Char

/-- The arguments of a program. -/
structure Arguments where
  /-- The options in their order. -/
  given : List GivenOption := []
  /-- The operands. -/
  operands : List (List Char) := []
  /-- What is wrong with the next option, if something is. -/
  fault : Option (List Char) := none

/-- What is wrong with an option. -/
def Arguments.bad (what name : List Char) (why : String := "") : Arguments :=
  { fault := some (what ++ name ++ '\'' :: why.toList) }

/-- The arguments with an option before them. -/
def Arguments.after (a : Arguments) (g : GivenOption) : Arguments :=
  { a with given := g :: a.given }

/-- The long option that a text behind two dashes names, with what is joined to it. A name that is
cut short must be the beginning of one name only. -/
def OptionTable.long? (t : OptionTable) (text : List Char) :
    Except Arguments (LongOption × Option (List Char)) :=
  let name := text.takeWhile (· ≠ '=')
  let value? := (text.dropWhile (· ≠ '=')).tail?
  match t.long.find? (·.name.toList = name), t.long.filter (name.isPrefixOf ·.name.toList) with
  | some o, _ | none, [o] => .ok (o, value?)
  | none, [] => .error (.bad "unrecognized option '--".toList text)
  | none, os => .error (.bad "option '--".toList text
      (" is ambiguous; possibilities:" ++ String.join (os.map fun o ↦ " '--" ++ o.name ++ "'")))

/-- The given of letters behind one dash, up to one that takes an argument: what is left for it, if
there is one. A letter that is not known is a fault. -/
def OptionTable.cluster (t : OptionTable) (word : List Char) :
    List Char → Except Arguments (List GivenOption × Option (Char × List Char))
  | [] => .ok ([], none)
  | c :: rest =>
    if t.withArgument.contains c then .ok ([], some (c, rest))
    else if t.letters.contains c then
      (t.cluster word rest).map fun (ss, last) ↦ (⟨c, none, word⟩ :: ss, last)
    else .error (.bad "invalid option -- '".toList [c])

/-- Reads the arguments of a program. -/
def readArguments (t : OptionTable) : (arguments : List (List Char)) → Arguments
  | [] => {}
  | word :: rest =>
    match word with
    | ['-', '-'] => { operands := rest }
    | '-' :: '-' :: text =>
      match t.long? text with
      | .error bad => bad
      | .ok (o, value?) =>
        match o.takes, value?, rest with
        | .nothing, some _, _ =>
          .bad "option '--".toList o.name.toList " doesn't allow an argument"
        | .always, none, [] => .bad "option '--".toList o.name.toList " requires an argument"
        | .always, none, value :: rest => (readArguments t rest).after ⟨o.letter, some value, word⟩
        | _, _, rest => (readArguments t rest).after ⟨o.letter, value?, word⟩
    | '-' :: c :: more =>
      match t.cluster word (c :: more) with
      | .error bad => bad
      | .ok (given, last) =>
        let joined (a : Arguments) : Arguments := { a with given := given ++ a.given }
        match last, rest with
        | none, rest => joined (readArguments t rest)
        | some (c, []), [] => .bad "option requires an argument -- '".toList [c]
        | some (c, []), value :: rest => joined ((readArguments t rest).after ⟨c, some value, word⟩)
        | some (c, value), rest => joined ((readArguments t rest).after ⟨c, some value, word⟩)
    | word =>
      let a := readArguments t rest
      { a with operands := word :: a.operands }

/-- How a program ends before it works on its operands. -/
inductive EarlyEnd where
  /-- As it should. -/
  | quiet
  /-- With a complaint. -/
  | complaint (text : List Char)
  /-- With a complaint of how it is used. -/
  | misuse (text : List Char)

/-- Ends a program early. -/
def endEarly (program : List Char) : EarlyEnd → Work Unit
  | .quiet => pure ()
  | .complaint text => complainAs program text
  | .misuse text => complainOfUse program text

end KernelForge.Shell
