import KernelForge.Text.Bytes

/-!
# Reading bytes as text

A byte sequence that is not UTF-8 is still shown: every longest piece that starts a character but
does not finish it, and every byte that starts none, is replaced by U+FFFD.
-/

namespace KernelForge.Utf8

/-- What a first byte promises: how many bytes follow, between which bounds the next one lies, and
the bits of the scalar value the first byte holds. -/
structure Lead where
  /-- How many bytes follow. -/
  tails : Nat
  /-- The least value of the second byte. -/
  low : Nat
  /-- The greatest value of the second byte. -/
  high : Nat
  /-- The bits of the scalar value in the first byte. -/
  bits : Nat

/-- The promise of a first byte, or nothing where no character starts with it. -/
def lead? (b : Nat) : Option Lead :=
  if b < 0x80 then some ⟨0, 0, 0, b⟩
  else if b < 0xC2 then none
  else if b < 0xE0 then some ⟨1, 0x80, 0xBF, b - 0xC0⟩
  else if b = 0xE0 then some ⟨2, 0xA0, 0xBF, 0⟩
  else if b = 0xED then some ⟨2, 0x80, 0x9F, 0xD⟩
  else if b < 0xF0 then some ⟨2, 0x80, 0xBF, b - 0xE0⟩
  else if b = 0xF0 then some ⟨3, 0x90, 0xBF, 0⟩
  else if b < 0xF4 then some ⟨3, 0x80, 0xBF, b - 0xF0⟩
  else if b = 0xF4 then some ⟨3, 0x80, 0x8F, 4⟩
  else none

/-- The character that stands for bytes that are no text. -/
def replacement : Char := '\uFFFD'

/-- Reads `tails` further bytes onto `bits`; the next byte lies between `low` and `high`. Answers
how many bytes belong to the character and its scalar value, if it is complete. -/
def follow : (tails low high bits : Nat) → Bytes → Nat × Option Nat
  | 0, _, _, bits, _ => (0, some bits)
  | _ + 1, _, _, _, [] => (0, none)
  | tails + 1, low, high, bits, b :: rest =>
    if low ≤ b.toNat ∧ b.toNat ≤ high then
      let (used, scalar?) := follow tails 0x80 0xBF (bits * 64 + (b.toNat - 0x80)) rest
      (used + 1, scalar?)
    else (0, none)

/-- The characters of `bytes`, with U+FFFD for each piece that is no character. -/
def decodeLossy (bytes : Bytes) : List Char :=
  match bytes with
  | [] => []
  | b :: rest =>
    match lead? b.toNat with
    | none => replacement :: decodeLossy rest
    | some lead =>
      let (used, scalar?) := follow lead.tails lead.low lead.high lead.bits rest
      (match scalar? with
        | some scalar => Char.ofNat scalar
        | none => replacement) :: decodeLossy (rest.drop used)
termination_by bytes.length
decreasing_by all_goals simp only [List.length_cons, List.length_drop]; omega

/-- The text of `bytes`, or nothing where they are not UTF-8. -/
def text? (bytes : Bytes) : Option String := String.fromUTF8? ⟨bytes.toArray⟩

/-- The text of `bytes`, with U+FFFD for each piece that is no character. -/
def text (bytes : Bytes) : String := String.ofList (decodeLossy bytes)

end KernelForge.Utf8
