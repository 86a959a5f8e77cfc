import KernelForge.Argument.Basic

/-!
# Calls across the native boundary

A native call carries a library, a symbol and the three groups of arguments. Its argument block has
one 64-bit word for every value, at the position of the value; every slot must be filled once.
-/

namespace KernelForge

/-- A call that is ready to cross the native boundary. -/
structure NativeCall where
  /-- The kernel library. -/
  library : Path
  /-- The symbol in the library. -/
  symbol : String
  /-- The tensors. -/
  tensors : List Tensor := []
  /-- The positions of the tensors. -/
  tensorPositions : List Int64 := []
  /-- The floating-point scalars. -/
  floats : List Double := []
  /-- The positions of the floating-point scalars. -/
  floatPositions : List Int64 := []
  /-- The fixed-point scalars. -/
  fixed : List Int64 := []
  /-- The positions of the fixed-point scalars. -/
  fixedPositions : List Int64 := []
  deriving DecidableEq

/-- The call of a symbol of a library with the groups as arguments. -/
def ArgumentGroups.call (g : ArgumentGroups) (library : Path) (symbol : String) : NativeCall where
  library := library
  symbol := symbol
  tensors := g.tensors
  tensorPositions := g.tensorPositions
  floats := g.floats
  floatPositions := g.floatPositions
  fixed := g.fixedWords
  fixedPositions := g.fixedPositions

namespace NativeCall

/-- The number of slots of the argument block. -/
def arity (c : NativeCall) : Nat := c.tensors.length + c.floats.length + c.fixed.length

/-- The words with their positions, when `addresses` are those of the tensors: tensors, then
floating-point, then fixed-point scalars, each group as far as both its lists go. -/
def placedWords (c : NativeCall) (addresses : List UInt64) : List (Int64 × UInt64) :=
  c.tensorPositions.zip addresses ++ c.floatPositions.zip (c.floats.map Double.bits) ++
    c.fixedPositions.zip (c.fixed.map Int64.toUInt64)

/-- The index of the free slot at a position. -/
def freeSlot? (block : List (Option UInt64)) (position : Int64) : Option Nat :=
  if 0 ≤ position.toInt ∧ block[position.toInt.toNat]? = some none then some position.toInt.toNat
  else none

/-- Fills the slots of a block. -/
def fillSlots (block : List (Option UInt64)) :
    List (Int64 × UInt64) → Except DeviceError (List (Option UInt64))
  | [] => .ok block
  | (position, word) :: rest =>
    match freeSlot? block position with
    | some i => fillSlots (block.set i (some word)) rest
    | none => .error (.layout position block.length)

/-- The words of the slots from `start` on, if all are filled. -/
def slotWords (slots start : Nat) : List (Option UInt64) → Except DeviceError (List UInt64)
  | [] => .ok []
  | some word :: rest => (slotWords slots (start + 1) rest).map (word :: ·)
  | none :: _ => .error (.layout (Int64.ofNat start) slots)

/-- The argument block, when `addresses` are those of the tensors. -/
def argumentBlock (c : NativeCall) (addresses : List UInt64) : Except DeviceError (List UInt64) :=
  match fillSlots (List.replicate c.arity none) (c.placedWords addresses) with
  | .ok block => slotWords c.arity 0 block
  | .error error => .error error

end NativeCall

/-- What is locked for a call so far. -/
structure Locks where
  /-- The storages that are locked, in the order in which they were. -/
  guards : List Nat := []
  /-- The addresses of the tensors. -/
  addresses : List UInt64 := []

namespace Locks

/-- Whether the lock on a storage is one on the storage of a tensor. -/
def covers (guard : Nat) (t : Tensor) : Bool := guard == t.storage

/-- The locks with a further tensor. Its storage is locked unless a lock covers it already, and its
address is that of what is locked. -/
def add (h : Heap) (l : Locks) (t : Tensor) : Locks :=
  let (guards, index) :=
    match l.guards.findIdx? (covers · t) with
    | some index => (l.guards, index)
    | none => (l.guards ++ [t.storage], l.guards.length)
  { guards, addresses := l.addresses ++ guards[index]?.toList.map h.address }

/-- The locks for a list of tensors. -/
def ofTensors (h : Heap) (tensors : List Tensor) : Locks := tensors.foldl (add h) {}

end Locks

/-- What a call does while it works with locks. -/
inductive LockStep where
  /-- A storage is locked. -/
  | lock (storage : Nat)
  /-- The kernel begins, with an argument block. -/
  | enter (block : List UInt64)
  /-- The kernel has ended. -/
  | leave
  /-- A storage is unlocked. -/
  | unlock (storage : Nat)
  deriving DecidableEq

end KernelForge
