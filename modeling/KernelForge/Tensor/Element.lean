import KernelForge.Binary.Format
import KernelForge.DType
import KernelForge.Text.Bytes

/-!
# Elements and their bytes

A number is stored as an element by converting it to the element type: integers are cut towards zero
and kept in range, floating-point numbers are rounded. An element that is already there is its bit
pattern. Main statements: an encoded element has the width of its type (`length_encode?`), and a
pattern reads back from its bytes (`ofBytes_toBytes`).
-/

namespace KernelForge

/-- The bit pattern of one element. -/
abbrev Pattern (t : DType) : Type := BitVec (8 * t.width)

namespace Pattern

/-- The bytes of a pattern in memory order. -/
def toBytes {t : DType} (p : Pattern t) : Bytes := Bytes.littleEndian t.width p.toNat

/-- The pattern with the given bytes. -/
def ofBytes (t : DType) (bytes : Bytes) : Pattern t := BitVec.ofNat _ (Bytes.ofLittleEndian bytes)

@[simp] theorem length_toBytes {t : DType} (p : Pattern t) : p.toBytes.length = t.width :=
  Bytes.length_littleEndian ..

/-- A pattern reads back from its bytes. -/
theorem ofBytes_toBytes {t : DType} (p : Pattern t) : ofBytes t p.toBytes = p := by
  apply BitVec.eq_of_toNat_eq
  simp only [ofBytes, toBytes, Bytes.ofLittleEndian_littleEndian, BitVec.toNat_ofNat,
    Nat.one_shiftLeft]
  rw [Nat.mod_mod, Nat.mod_eq_of_lt p.isLt]

end Pattern

namespace DType

/-- The bytes of the number `x` as an element; the reduced types of eight bits take no numbers. -/
def encode? (t : DType) (x : Double) : Option Bytes :=
  match t with
  | bool => some [if x.value.isZero then 0 else 1]
  | float16 => some (Bytes.littleEndian 2 x.toHalf.toNat)
  | bfloat16 => some (Bytes.littleEndian 2 x.toBrain.toNat)
  | float32 => some (Bytes.littleEndian 4 x.toSingle.bits.toNat)
  | float64 => some (Bytes.littleEndian 8 x.bits.toNat)
  | t => t.range?.map fun (low, high) ↦
    Bytes.littleEndian t.width (x.value.clamp low high % ((1 <<< (8 * t.width) : Nat) : Int)).toNat

/-- An encoded element has the width of its type. -/
theorem length_encode? {t : DType} {x : Double} {bytes : Bytes} (h : t.encode? x = some bytes) :
    bytes.length = t.width := by
  cases t <;> simp [encode?, range?, isSigned, isUnsigned, width] at h ⊢ <;> subst h <;>
    simp [Bytes.length_littleEndian]

/-- The elements without an encoding are those of the reduced types. -/
theorem encode?_eq_none_iff {t : DType} {x : Double} :
    t.encode? x = none ↔ t = float8e4m3 ∨ t = float8e5m2 := by
  cases t <;> simp [encode?, range?, isSigned, isUnsigned]

end DType

end KernelForge
