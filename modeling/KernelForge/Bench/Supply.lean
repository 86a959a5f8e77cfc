import KernelForge.Kernel.Invoke

/-!
# Supplied inputs

A benchmark makes its own inputs, one tensor for every parameter. Results are zeroed; the others are
filled as the supply says. Where random elements come from is a parameter, so that what is said of a
supply holds for all of them.
-/

namespace KernelForge

/-- How a supplied tensor is filled. -/
inductive Supply where
  /-- As is usual. -/
  | auto
  /-- With random elements. -/
  | random
  /-- With random whole numbers. -/
  | integer
  /-- With zeros. -/
  | zero
  /-- With ones. -/
  | one
  deriving DecidableEq

/-- Where random elements come from: for every place a natural number, and a number between minus
one and one. -/
structure Draws where
  /-- A natural number for every place. -/
  whole : Nat → Nat
  /-- A number between minus one and one for every place. -/
  fraction : Nat → Double

/-- Draws that run through sixteenths. -/
def Draws.sixteenths : Draws where
  whole i := 7 * i + 3
  fraction i := Double.ofInt (((5 * i + 2) % 32 : Nat) - 16) (-4)

namespace Supply

/-- The supplies. -/
def all : List Supply := [auto, random, integer, zero, one]

/-- The name of a supply. -/
def name : Supply → String
  | auto => "Auto"
  | random => "Random"
  | integer => "Integer"
  | zero => "Zero"
  | one => "One"

/-- The supply that is used where none is chosen. -/
def usual : Supply := auto

/-- The supply with a name, ASCII case aside. -/
def parse? (s : String) : Option Supply := all.find? fun k ↦ Text.lower k.name == Text.lower s

/-- What is said of a name that no supply has. -/
def unknownMessage : String := "Matching variant not found"

/-- Whether the elements are random. -/
def isRandom (s : Supply) : Bool := s == auto || s == random || s == integer

/-- The element at a place, of at least `low` and below `low + span`. -/
def whole (draws : Draws) (low : Int) (span : Nat) (i : Nat) : Double :=
  .ofInt (low + (draws.whole i % span : Nat)) 0

/-- A tensor for a parameter. -/
def tensor (s : Supply) (draws : Draws) (dtype : DType) (shape : List UInt64) :
    Act Heap DeviceError Tensor :=
  match s with
  | zero => Tensor.zeros dtype shape
  | one => Tensor.full dtype shape (.ofInt 1 0)
  | integer =>
    if dtype.isUnsigned || dtype.isBool then Tensor.ofFn dtype shape (whole draws 0 2)
    else Tensor.ofFn dtype shape (whole draws (-4) 9)
  | auto | random =>
    if dtype.isFloat then Tensor.ofFn dtype shape draws.fraction
    else Tensor.ofFn dtype shape (whole draws 0 (if dtype.isBool then 2 else 8))

/-- One tensor for every parameter, the results zeroed; `draws` gives the random elements for every
parameter. -/
def inputs (s : Supply) (draws : Nat → Draws) (params : List Param) (results : List Nat) :
    Act Heap DeviceError (List Tensor) :=
  params.zipIdx.mapM fun (p, i) ↦
    if results.contains i then Tensor.zeros p.dtype p.shape else s.tensor (draws i) p.dtype p.shape

/-- The supplied arguments of a kernel. -/
def arguments (s : Supply) (draws : Nat → Draws) (k : Kernel) :
    Act Heap KernelError (List Argument) :=
  Act.mapError .device ((List.map Argument.tensor) <$> s.inputs draws k.source.params k.results)

end Supply

end KernelForge
