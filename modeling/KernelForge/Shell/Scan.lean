/-!
# Options one by one

The options among some words are read one after the other. An option is a letter in a word behind a
hyphen; its argument is the rest of that word or the next word.
-/

namespace KernelForge.Shell

/-- Where the options among some words are read on. -/
structure Scan where
  /-- The number of the next word, counted from one; nothing while it is being found. -/
  next : Option Nat := some 1
  /-- How many characters of the word before it were read, if it goes on. -/
  inside : Option Nat := none

/-- What is read next. -/
inductive ScanResult where
  /-- No option is left. -/
  | finish
  /-- An option that is not known. -/
  | unknown (letter : Char)
  /-- An option whose argument is missing. -/
  | lacking (letter : Char)
  /-- An option and its argument, which is empty if it takes none. -/
  | option (letter : Char) (argument : List Char)

namespace Scan

/-- Whether an option takes an argument, if it is known. The known ones are letters, with a colon
behind those that take one. -/
def takes? (letter : Char) : List Char → Option Bool
  | [] => none
  | c :: ':' :: rest => if c = letter then some true else takes? letter rest
  | c :: rest => if c = letter then some false else takes? letter rest

/-- Reads an option by its letter, with `rest` behind it in its word and with `next` as the number
of the next word. -/
def readLetter (known : List Char) (words : List (List Char)) (letter : Char) (rest : List Char)
    (next : Nat) : ScanResult × Scan :=
  let inside := some (((words[next - 2]?).map List.length).getD 0 - rest.length)
  match takes? letter known, rest with
  | none, _ => (.unknown letter, ⟨some next, inside⟩)
  | some false, _ => (.option letter [], ⟨some next, inside⟩)
  | some true, _ :: _ => (.option letter rest, ⟨some next, none⟩)
  | some true, [] =>
    match words[next - 1]? with
    | some argument => (.option letter argument, ⟨some (next + 1), none⟩)
    | none => (.lacking letter, ⟨some next, none⟩)

/-- Reads the next option. A place that is not among the words is the beginning. -/
def step (known : List Char) (words : List (List Char)) (scan : Scan) : ScanResult × Scan :=
  let (next, inside) := match scan.next with
    | some next => if words.length + 1 < next then (1, none) else (next, scan.inside)
    | none => (1, none)
  let rest := match inside with
    | some read => if next ≤ 1 then [] else ((words[next - 2]?).getD []).drop read
    | none => []
  match rest, words[next - 1]? with
  | letter :: rest, _ => readLetter known words letter rest next
  | [], some ['-', '-'] => (.finish, ⟨some (next + 1), none⟩)
  | [], some ('-' :: letter :: rest) => readLetter known words letter rest (next + 1)
  | [], _ => (.finish, ⟨some next, none⟩)

end Scan

end KernelForge.Shell
