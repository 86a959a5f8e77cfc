import KernelForge.KernelError

/-!
# The interface of a kernel

A kernel source comes with its parameters and perhaps with a symbol. Some parameters are results;
they are named by index, from the front or from the back.
-/

namespace KernelForge

/-- A formal parameter. -/
structure Param where
  /-- Its name. -/
  name : String
  /-- Its element type. -/
  dtype : DType
  /-- Its shape. -/
  shape : List UInt64
  deriving DecidableEq

/-- A device source with its interface. -/
structure KernelSource where
  /-- The text. -/
  text : String
  /-- The first symbol of the source, if it is known. -/
  symbol : Option String := none
  /-- The parameters. -/
  params : List Param := []
  deriving DecidableEq

/-- The name of an entry where neither a request nor the source gives one. -/
def usualEntry : String := "main"

/-- The name of the entry: what is requested, else the symbol of the source, else the usual one. -/
def entryName (requested symbol : Option String) : String := (requested.or symbol).getD usualEntry

/-- The parameter that a result index names, counted from the end if it is negative. -/
def resultIndex (params : Nat) (index : Int64) : Except KernelError Nat :=
  let resolved := if index < 0 then index + Int64.ofNat params else index
  if 0 ≤ resolved ∧ resolved < Int64.ofNat params then .ok resolved.toInt.toNat
  else .error (.resultIndex index params)

/-- The parameters that result indices name; the first that names none is refused. -/
def resultIndices (params : Nat) (indices : List Int64) : Except KernelError (List Nat) :=
  indices.mapM (resultIndex params)

end KernelForge
