import KernelForge.KernelError
import KernelForge.Tensor.Basic

/-!
# Arguments and their groups

A call takes a list of arguments. At the native boundary they travel in three groups, tensors,
floating-point scalars and fixed-point scalars, each value with its position in the list. A group
record may also come from elsewhere; values and positions are then paired as far as both go.
-/

namespace KernelForge

/-- An argument of a kernel call. -/
inductive Argument where
  /-- A tensor. -/
  | tensor (value : Tensor)
  /-- A truth value. -/
  | bool (value : Bool)
  /-- An integer. -/
  | int (value : Int64)
  /-- A floating-point number. -/
  | float (value : Double)
  /-- A text, which no kernel takes. -/
  | text (value : String)
  /-- No value, which no kernel takes. -/
  | absent
  deriving DecidableEq

namespace Argument

/-- What an argument is, in a word. -/
def kind : Argument → String
  | tensor _ => "tensor"
  | bool _ => "bool"
  | int _ => "int"
  | float _ => "float"
  | text _ => "str"
  | absent => "none"

/-- The tensor that an argument is. -/
def tensor? : Argument → Option Tensor
  | tensor t => some t
  | _ => none

end Argument

/-- A fixed-point scalar. -/
inductive FixedScalar where
  /-- A truth value. -/
  | bool (value : Bool)
  /-- An integer. -/
  | int (value : Int64)
  deriving DecidableEq

namespace FixedScalar

/-- The integer that crosses the native boundary. -/
def word : FixedScalar → Int64
  | bool b => if b then 1 else 0
  | int n => n

/-- The argument that a fixed-point scalar came from. -/
def argument : FixedScalar → Argument
  | bool b => .bool b
  | int n => .int n

end FixedScalar

/-- Arguments in groups, each value with its position. -/
structure ArgumentGroups where
  /-- The tensors. -/
  tensors : List Tensor := []
  /-- The positions of the tensors. -/
  tensorPositions : List Int64 := []
  /-- The floating-point scalars. -/
  floats : List Double := []
  /-- The positions of the floating-point scalars. -/
  floatPositions : List Int64 := []
  /-- The fixed-point scalars. -/
  fixed : List FixedScalar := []
  /-- The positions of the fixed-point scalars. -/
  fixedPositions : List Int64 := []
  deriving DecidableEq

namespace ArgumentGroups

/-- The number of values. -/
def size (g : ArgumentGroups) : Nat := g.tensors.length + g.floats.length + g.fixed.length

/-- Whether there is no value. -/
def isEmpty (g : ArgumentGroups) : Bool := g.size == 0

/-- The fixed-point scalars as they cross the native boundary. -/
def fixedWords (g : ArgumentGroups) : List Int64 := g.fixed.map FixedScalar.word

/-- The values with their positions: tensors, then floating-point, then fixed-point scalars. -/
def placed (g : ArgumentGroups) : List (Int64 × Argument) :=
  g.tensorPositions.zip (g.tensors.map .tensor) ++ g.floatPositions.zip (g.floats.map .float) ++
    g.fixedPositions.zip (g.fixed.map FixedScalar.argument)

/-- The argument list: the values in the order of their positions, equal positions in the order of
the groups. -/
def reassemble (g : ArgumentGroups) : List Argument :=
  (g.placed.mergeSort fun a b ↦ a.1 ≤ b.1).map Prod.snd

/-- The groups with one more argument at `position`; a text or no value has no group. -/
def add? (g : ArgumentGroups) (position : Int64) : Argument → Option ArgumentGroups
  | .tensor t => some { g with
      tensors := g.tensors ++ [t], tensorPositions := g.tensorPositions ++ [position] }
  | .bool b => some { g with
      fixed := g.fixed ++ [.bool b], fixedPositions := g.fixedPositions ++ [position] }
  | .int n => some { g with
      fixed := g.fixed ++ [.int n], fixedPositions := g.fixedPositions ++ [position] }
  | .float x => some { g with
      floats := g.floats ++ [x], floatPositions := g.floatPositions ++ [position] }
  | .text _ | .absent => none

/-- Adds the arguments from `position` on. -/
def addAll (g : ArgumentGroups) (position : Nat) : List Argument → Except KernelError ArgumentGroups
  | [] => .ok g
  | a :: rest =>
    match g.add? (Int64.ofNat position) a with
    | some g' => g'.addAll (position + 1) rest
    | none => .error (.unsupportedArgument position a.kind)

end ArgumentGroups

/-- The arguments in groups. The first text or missing value is refused. -/
def marshal (args : List Argument) : Except KernelError ArgumentGroups :=
  ArgumentGroups.addAll {} 0 args

end KernelForge
