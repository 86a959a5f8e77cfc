/-!
# Masks

A mask holds the rights that new files do not get: three bits for the owner, the group and all
others. It is written as a number to the base eight, or by the rights that are left.
-/

namespace KernelForge.Shell.Mask

/-- How many masks there are. -/
def count : Nat := 0o1000

/-- The digits of a mask: four of them. -/
def digits (mask : Nat) : List Char :=
  [512, 64, 8, 1].map fun unit ↦ Nat.digitChar (mask / unit % 8)

/-- The rights among three bits, by their letters. -/
def letters (bits : Nat) : List Char :=
  [('r', 2), ('w', 1), ('x', 0)].filterMap fun (c, i) ↦ if bits.testBit i then some c else none

/-- The rights that a mask leaves to the owner, the group and all others. -/
def rights (mask : Nat) : List Char :=
  let part (who : Char) (unit : Nat) : List Char := who :: '=' :: letters (7 - mask / unit % 8)
  [','].intercalate [part 'u' 64, part 'g' 8, part 'o' 1]

/-- The mask that a number to the base eight writes. -/
def ofDigits? (text : List Char) : Option Nat :=
  if text.all fun c ↦ '0' ≤ c && c ≤ '7' then
    some (text.foldl (fun n c ↦ n * 8 + (c.toNat - 48)) 0 % count)
  else none

/-- Who gets rights. -/
def owners (text : List Char) : Nat :=
  text.foldl (fun bits c ↦ bits ||| match c with
    | 'a' => 0o111
    | 'u' => 0o100
    | 'g' => 0o010
    | _ => 0o001) 0

/-- The rights that letters name, where `left` are those that are left now. -/
def named (left : Nat) (text : List Char) : Nat :=
  text.foldl (fun bits c ↦ bits ||| match c with
    | 'r' => 4
    | 'w' => 2
    | 'x' => 1
    | 'u' => left / 64
    | 'g' => left / 8 % 8
    | 'o' => left % 8
    | 'X' => if left &&& 0o111 = 0 then 0 else 1
    | _ => 0) 0 % 8

/-- The rights that are left after a change of some of them. -/
def change (left : Nat) (operator : Char) (who given : Nat) : Nat :=
  let bits := given * who
  match operator with
  | '-' => left &&& (count - 1 - bits)
  | '+' => left ||| bits
  | _ => bits ||| (left &&& (count - 1 - who * 7))

/-- The rights that are left after the changes that a text asks for, where `before` were left before
all of them; nothing if the text asks for none. -/
def changeAll (before : Nat) : (most : Nat) → (left who : Nat) → List Char → Option Nat
  | 0, left, _, _ => some left
  | most + 1, left, who, text =>
    if text = [] then some left
    else
      let isOwner (c : Char) := "augo".toList.contains c
      let isRight (c : Char) := "rwxugoXs".toList.contains c
      let named? := who ||| owners (text.takeWhile isOwner)
      let who := if named? = 0 then 0o111 else named?
      match text.dropWhile isOwner with
      | [] => some left
      | operator :: rest =>
        if !"=+-".toList.contains operator then none
        else
          let left := change left operator who (named before (rest.takeWhile isRight))
          match rest.dropWhile isRight with
          | [] => some left
          | ',' :: rest => changeAll before most left 0 rest
          | c :: rest =>
            if "=+-".toList.contains c then changeAll before most left who (c :: rest) else none

/-- The mask after the changes that a text asks for. -/
def assign? (mask : Nat) (text : List Char) : Option Nat :=
  let left := count - 1 - mask
  (changeAll left (text.length + 1) left 0 text).map (count - 1 - ·)

end KernelForge.Shell.Mask
