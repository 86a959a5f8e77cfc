import KernelForge.DeviceError

/-!
# What can go wrong with a kernel

A kernel fails for a reason of the device or for one of its own. Its text is made in one place
(`KernelError.message`).
-/

namespace KernelForge

/-- Why a step with a kernel failed. -/
inductive KernelError where
  /-- A step at the device failed. -/
  | device (error : DeviceError)
  /-- The store could not be written. -/
  | storeWrite (path : Path) (cause : Cause)
  /-- An argument is neither a tensor nor a number. -/
  | unsupportedArgument (position : Nat) (kind : String)
  /-- A result index names no parameter. -/
  | resultIndex (index : Int64) (params : Nat)
  /-- A result index names an argument that is no tensor. -/
  | outputNotTensor (index : Nat)
  /-- No target has this name. -/
  | unknownTarget (name : String)
  /-- The kernel is not prepared. -/
  | notPrepared (entry : String)
  /-- The kernel could not be prepared, and is not tried again. -/
  | preparationFailed (entry reason : String)
  /-- A benchmark needs a timed run. -/
  | emptyBenchmark
  /-- The measurements have no average. -/
  | noAverage (runs : Nat)
  deriving DecidableEq

/-- The text of a failure. -/
def KernelError.message : KernelError → String
  | device error => error.message
  | storeWrite path cause => "cannot write kernel cache at " ++ path.text ++ ": " ++ cause.message
  | unsupportedArgument position kind =>
    "unsupported argument type at position " ++ toString position ++ ": " ++ kind
  | resultIndex index params =>
    "result index " ++ toString index.toInt ++ " out of range for " ++ toString params ++
      " parameters"
  | outputNotTensor index =>
    "result index " ++ toString index ++ " does not refer to a tensor argument"
  | unknownTarget name => "unknown target '" ++ name ++ "'"
  | notPrepared entry => "kernel '" ++ entry ++ "' has not been prepared"
  | preparationFailed entry reason =>
    "preparation of kernel '" ++ entry ++ "' failed earlier: " ++ reason
  | emptyBenchmark => "benchmark requires at least one timed run"
  | noAverage runs => "no average of " ++ toString runs ++ " measurements"

end KernelForge
