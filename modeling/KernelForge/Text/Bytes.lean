/-!
# Bytes and their written forms

A byte sequence is a list, so that its laws are the laws of lists. Main statements: a word written
in little-endian order reads back (`ofLittleEndian_littleEndian`), its written form has the asked
width (`length_littleEndian`), and a text is known by its bytes (`utf8_inj`).
-/

namespace KernelForge

/-- A byte sequence. -/
abbrev Bytes := List UInt8

/-- The bytes of a text in UTF-8. -/
def utf8 (text : String) : Bytes := text.toByteArray.data.toList

/-- A text is known by its bytes. -/
theorem utf8_inj {s t : String} : utf8 s = utf8 t ↔ s = t := by
  unfold utf8
  rw [Array.toList_inj, ← String.toByteArray_inj]
  exact ⟨fun h ↦ ByteArray.ext h, fun h ↦ congrArg ByteArray.data h⟩

namespace Bytes

/-- The digit for a value below sixteen. -/
def hexDigit (n : Nat) : Char := (Nat.digitChar n)

/-- Two lower-case hexadecimal digits for every byte, the high digit first. -/
def hexDigits (bytes : Bytes) : List Char :=
  bytes.flatMap fun b ↦ [hexDigit (b.toNat / 16), hexDigit (b.toNat % 16)]

/-- Two lower-case hexadecimal digits for every byte. -/
def hex (bytes : Bytes) : String := String.ofList bytes.hexDigits

/-- Two upper-case hexadecimal digits for every byte. -/
def hexUpper (bytes : Bytes) : String := String.ofList (bytes.hexDigits.map Char.toUpper)

/-- The lowest `width` bytes of `n`, the least significant first. -/
def littleEndian : (width n : Nat) → Bytes
  | 0, _ => []
  | width + 1, n => UInt8.ofNat n :: littleEndian width (n / 256)

/-- The number whose little-endian form is `bytes`. -/
def ofLittleEndian : (bytes : Bytes) → Nat
  | [] => 0
  | b :: rest => b.toNat + 256 * ofLittleEndian rest

/-- The number whose big-endian form is `bytes`. -/
def ofBigEndian (bytes : Bytes) : Nat := bytes.foldl (fun n b ↦ 256 * n + b.toNat) 0

@[simp] theorem length_littleEndian (width n : Nat) : (littleEndian width n).length = width := by
  induction width generalizing n with
  | zero => rfl
  | succ width ih => simp [littleEndian, ih]

/-- A word reads back from its little-endian form, up to the width of the form. -/
theorem ofLittleEndian_littleEndian (width n : Nat) :
    ofLittleEndian (littleEndian width n) = n % (1 <<< (8 * width)) := by
  induction width generalizing n with
  | zero => simp [littleEndian, ofLittleEndian, Nat.mod_one]
  | succ width ih =>
    have h : 1 <<< (8 * (width + 1)) = 256 * (1 <<< (8 * width)) := by
      rw [Nat.mul_succ, Nat.shiftLeft_add, Nat.shiftLeft_eq _ 8]
      omega
    rw [littleEndian, ofLittleEndian, ih, UInt8.toNat_ofNat', h, Nat.mod_mul]

/-- Every byte as the character with its number. -/
def chars (bytes : Bytes) : List Char := bytes.map fun b ↦ Char.ofNat b.toNat

/-- Every character below 256 as the byte with its number. -/
def ofChars (cs : List Char) : Bytes := cs.map fun c ↦ UInt8.ofNat c.toNat

/-- The pieces of `size` elements that `xs` falls into, the last one shorter if need be.
Pieces of size zero are read as pieces of size one. -/
def chunks {α : Type} (size : Nat) (xs : List α) : List (List α) :=
  match xs with
  | [] => []
  | x :: rest => (x :: rest).take (size - 1 + 1) :: chunks size ((x :: rest).drop (size - 1 + 1))
termination_by xs.length
decreasing_by simp only [List.length_drop, List.length_cons]; omega

end Bytes

end KernelForge
