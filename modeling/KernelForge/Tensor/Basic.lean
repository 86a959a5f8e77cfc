import KernelForge.Act
import KernelForge.DeviceError
import KernelForge.Tensor.Element
import KernelForge.Tensor.Heap

/-!
# Host tensors

A tensor is a handle on a storage, with an element type and a shape. Handles that share a storage
see each other's writes. The size of a tensor is checked dimension by dimension, from the left, in
64 bits; the first product that does not fit decides.
-/

namespace KernelForge

/-- A handle on a storage. -/
structure Tensor where
  /-- The number of the storage. -/
  storage : Nat
  /-- The element type. -/
  dtype : DType
  /-- The dimensions, the slowest first. -/
  shape : List UInt64
  deriving DecidableEq

namespace Tensor

/-- A product, if it fits 64 bits. -/
def checkedMul (n m : Nat) : Option Nat := if n * m < UInt64.size then some (n * m) else none

/-- The number of elements of a shape, if every product on the way fits 64 bits. -/
def elementCount? (shape : List UInt64) : Option Nat :=
  shape.foldlM (fun n d ↦ checkedMul n d.toNat) 1

/-- The number of bytes of a tensor, if every product on the way fits 64 bits. -/
def byteCount? (dtype : DType) (shape : List UInt64) : Option Nat :=
  (elementCount? shape).bind (checkedMul · dtype.width)

/-- The size of the memory block for a tensor. A block has less than 2⁶³ bytes. -/
def blockSize (dtype : DType) (shape : List UInt64) : Except DeviceError Nat :=
  match byteCount? dtype shape with
  | none => .error (.tensorSize shape dtype)
  | some n => if n < UInt64.size / 2 then .ok n else .error (.beyondMemory n)

/-- The number of elements, in words of 64 bits. -/
def numel (t : Tensor) : UInt64 := t.shape.foldl (· * ·) 1

/-- The number of bytes, in words of 64 bits. -/
def nbytes (t : Tensor) : UInt64 := t.numel * UInt64.ofNat t.dtype.width

/-- Whether two handles refer to the same storage. -/
def shares (a b : Tensor) : Bool := a.storage == b.storage

/-- The bytes of a tensor. -/
def bytes (t : Tensor) (h : Heap) : Bytes := h.bytes t.storage

/-- A tensor with a storage of its own. -/
def allocate (dtype : DType) (shape : List UInt64) (content : Bytes) :
    Act Heap DeviceError Tensor := Act.ofRun fun h ↦
  (.ok ⟨(h.allocate content).1, dtype, shape⟩, (h.allocate content).2)

/-- A tensor of zeros. -/
def zeros (dtype : DType) (shape : List UInt64) : Act Heap DeviceError Tensor := do
  let size ← Act.ofExcept (blockSize dtype shape)
  allocate dtype shape (List.replicate size 0)

/-- The bytes of `x` as an element. -/
def element (dtype : DType) (x : Double) : Except DeviceError Bytes :=
  match dtype.encode? x with
  | some bytes => .ok bytes
  | none => .error (.unsupported dtype "host element fill")

/-- The bytes of the elements `start`, `start + 1`, …; element `i` is what `f i` answers, and `f` is
asked once for each, in order. -/
def elements {ρ : Type} (dtype : DType) (f : Nat → ρ → Double × ρ) :
    (start count : Nat) → Act ρ DeviceError Bytes
  | _, 0 => pure []
  | start, count + 1 => do
    let x ← Act.ofRun fun r ↦ (.ok (f start r).1, (f start r).2)
    let first ← Act.ofExcept (element dtype x)
    let rest ← elements dtype f (start + 1) count
    pure (first ++ rest)

/-- A tensor whose element `i` is what `f i` answers. -/
def generate {ρ : Type} (dtype : DType) (shape : List UInt64) (f : Nat → ρ → Double × ρ) :
    Act (Heap × ρ) DeviceError Tensor := do
  let size ← Act.ofExcept (blockSize dtype shape)
  let content ← Act.within Prod.snd (fun r s ↦ (s.1, r))
    (elements dtype f 0 (size / dtype.width))
  Act.within Prod.fst (fun h s ↦ (h, s.2)) (allocate dtype shape content)

/-- A tensor whose element `i` is `f i`. -/
def ofFn (dtype : DType) (shape : List UInt64) (f : Nat → Double) : Act Heap DeviceError Tensor :=
  Act.within (·, ()) (fun s _ ↦ s.1) (generate dtype shape fun i r ↦ (f i, r))

/-- A tensor with the same number everywhere. -/
def full (dtype : DType) (shape : List UInt64) (x : Double) : Act Heap DeviceError Tensor :=
  ofFn dtype shape fun _ ↦ x

/-- A tensor with the given elements. -/
def ofPatterns {dtype : DType} (data : List (Pattern dtype)) (shape : List UInt64) :
    Act Heap DeviceError Tensor :=
  match elementCount? shape with
  | none => throw (.tensorSize shape dtype)
  | some expected =>
    if data.length = expected then allocate dtype shape (data.flatMap Pattern.toBytes)
    else throw (.elementCount expected data.length)

/-- The elements of a tensor, read as elements of type `wanted`. -/
def patterns (t : Tensor) (wanted : DType) : Act Heap DeviceError (List (Pattern wanted)) :=
  if wanted = t.dtype then
    Act.reads fun h ↦ (Bytes.chunks wanted.width (t.bytes h)).map (Pattern.ofBytes wanted)
  else throw (.dtypeMismatch wanted t.dtype)

/-- Whether the write guard of one tensor also guards another. -/
def covers (guarded other : Tensor) : Bool := guarded.shares other

/-- Writes `new` at `offset` of the storage. -/
def overwrite (t : Tensor) (offset : Nat) (new : Bytes) : Act Heap DeviceError Unit :=
  Act.changes fun h ↦ h.write t.storage offset new

/-- The text of a tensor in a report. -/
def debugText (t : Tensor) : String :=
  "HostTensor \x7b dtype: " ++ t.dtype.label ++ ", shape: " ++ shapeText t.shape ++ " \x7d"

end Tensor

end KernelForge
