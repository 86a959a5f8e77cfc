import KernelForge.Text.Blank

/-!
# Element types

The element types of kernel parameters and host tensors: their names, widths, numbers and classes.
A name is read without regard to white space around it and to the case of ASCII letters.
-/

namespace KernelForge

/-- An element type. -/
inductive DType where
  /-- A truth value. -/
  | bool
  /-- A signed byte. -/
  | int8
  /-- An unsigned byte. -/
  | uint8
  /-- A signed integer of sixteen bits. -/
  | int16
  /-- An unsigned integer of sixteen bits. -/
  | uint16
  /-- A signed integer of thirty-two bits. -/
  | int32
  /-- An unsigned integer of thirty-two bits. -/
  | uint32
  /-- A signed integer of sixty-four bits. -/
  | int64
  /-- An unsigned integer of sixty-four bits. -/
  | uint64
  /-- Eight bits, four of them exponent. -/
  | float8e4m3
  /-- Eight bits, five of them exponent. -/
  | float8e5m2
  /-- Half precision. -/
  | float16
  /-- Single precision cut to sixteen bits. -/
  | bfloat16
  /-- Single precision. -/
  | float32
  /-- Double precision. -/
  | float64
  deriving DecidableEq, Repr

namespace DType

/-- The element types in the order of their numbers. -/
def all : List DType :=
  [bool, int8, uint8, int16, uint16, int32, uint32, int64, uint64, float8e4m3, float8e5m2, float16,
    bfloat16, float32, float64]

/-- Every element type is listed. -/
theorem mem_all (t : DType) : t ∈ all := by cases t <;> decide

/-- The number of an element type at the native boundary. -/
def tag (t : DType) : Nat := t.ctorIdx

/-- The element type with a given number. -/
def ofTag? (n : Nat) : Option DType := all[n]?

/-- The bytes that one element takes. -/
def width : DType → Nat
  | bool | int8 | uint8 | float8e4m3 | float8e5m2 => 1
  | int16 | uint16 | float16 | bfloat16 => 2
  | int32 | uint32 | float32 => 4
  | int64 | uint64 | float64 => 8

/-- An element takes at least one byte. -/
theorem width_pos (t : DType) : 0 < t.width := by cases t <;> decide

/-- Whether this is the type of truth values. -/
def isBool (t : DType) : Bool := t == bool

/-- Whether the elements are signed integers. -/
def isSigned (t : DType) : Bool := [int8, int16, int32, int64].contains t

/-- Whether the elements are unsigned integers. -/
def isUnsigned (t : DType) : Bool := [uint8, uint16, uint32, uint64].contains t

/-- Whether the elements are integers. -/
def isInteger (t : DType) : Bool := t.isSigned || t.isUnsigned

/-- Whether the elements are floating-point numbers. -/
def isFloat (t : DType) : Bool :=
  [float8e4m3, float8e5m2, float16, bfloat16, float32, float64].contains t

/-- The spellings of an element type in lower case, its own name first. -/
def spellings : DType → List String
  | bool => ["bool"]
  | int8 => ["int8", "i8"]
  | uint8 => ["uint8", "u8"]
  | int16 => ["int16", "i16"]
  | uint16 => ["uint16", "u16"]
  | int32 => ["int32", "i32", "int"]
  | uint32 => ["uint32", "u32"]
  | int64 => ["int64", "i64"]
  | uint64 => ["uint64", "u64"]
  | float8e4m3 => ["float8_e4m3", "float8_e4m3fn", "fp8e4m3"]
  | float8e5m2 => ["float8_e5m2", "fp8e5m2"]
  | float16 => ["float16", "f16", "fp16", "half"]
  | bfloat16 => ["bfloat16", "bf16"]
  | float32 => ["float32", "f32", "fp32", "float"]
  | float64 => ["float64", "f64", "fp64", "double"]

/-- The name of an element type. -/
def name (t : DType) : String := t.spellings.headD ""

/-- The name of an element type in a report. -/
def label : DType → String
  | bool => "Bool"
  | int8 => "Int8"
  | uint8 => "UInt8"
  | int16 => "Int16"
  | uint16 => "UInt16"
  | int32 => "Int32"
  | uint32 => "UInt32"
  | int64 => "Int64"
  | uint64 => "UInt64"
  | float8e4m3 => "FP8E4M3"
  | float8e5m2 => "FP8E5M2"
  | float16 => "Float16"
  | bfloat16 => "BFloat16"
  | float32 => "Float32"
  | float64 => "Float64"

/-- The enumerator of the TPU kernel runtime, for the types that its chips know. -/
def vendorName? : DType → Option String
  | float32 => some "DT_FP32"
  | float16 => some "DT_FP16"
  | bfloat16 => some "DT_BFP16"
  | float8e5m2 => some "DT_FP8E5M2"
  | float8e4m3 => some "DT_FP8E4M3"
  | int32 => some "DT_INT32"
  | uint32 => some "DT_UINT32"
  | int16 => some "DT_INT16"
  | uint16 => some "DT_UINT16"
  | int8 => some "DT_INT8"
  | uint8 => some "DT_UINT8"
  | bool | int64 | uint64 | float64 => none

/-- The element type with the spelling `s`, white space around it and ASCII case aside. -/
def parse? (s : String) : Option DType :=
  all.find? fun t ↦ t.spellings.contains (Text.lower (Text.trim s))

/-- The least and the greatest integer of an integer type. -/
def range? (t : DType) : Option (Int × Int) :=
  let half : Nat := 1 <<< (8 * t.width - 1)
  if t.isSigned then some (-half, half - 1)
  else if t.isUnsigned then some (0, 2 * half - 1)
  else none

/-- What is said of a name that spells no element type. -/
def unknownMessage (name : String) : String := "unknown dtype '" ++ name ++ "'"

/-- A name that spells no element type. -/
structure Unknown where
  /-- The name as it was given. -/
  name : String

/-- The text of the failure. -/
def Unknown.message (e : Unknown) : String := unknownMessage e.name

/-- The element type with the spelling `s`, or an error that tells the name as it was given. -/
def parse (s : String) : Except Unknown DType :=
  match parse? s with
  | some t => .ok t
  | none => .error ⟨s⟩

end DType

end KernelForge
